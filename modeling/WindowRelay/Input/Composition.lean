import WindowRelay.Input.Router

/-!
Contract: text input composed by the input method of the host.

Owns:
- the length of a text in UTF-16 units, as the window manager counts it;
- the calls of composing, committing and ending a text.
-/

namespace WindowRelay

/-- How many UTF-16 units a character takes. -/
def Utf16.unitsOf (character : Char) : Nat :=
  if character.toNat < 0x10000 then 1 else 2

/-- The length of a text in UTF-16 units. -/
def Utf16.length (text : String) : Nat :=
  text.toList.foldl (fun count character => count + unitsOf character) 0

namespace Composition

/-- Set the text that is being composed. -/
def setText (text : String) (cursor : Int32) : Call :=
  .imeSetText text (UInt64.ofNat (Utf16.length text)) cursor

def composeCalls (text : String) (cursor : Int32) : List Call :=
  [.imeStart, setText text cursor]

/-- A committed text is inserted, unless the host could map it to keys, which are typed. -/
def commitCalls (text : String) (cursor : Int32) (keys : Option (List KeySample)) : List Call :=
  match keys with
  | some (first :: rest) =>
    .imeCancel :: (first :: rest).flatMap fun sample => (Router.key sample true).1
  | _ => [.imeStart, setText text cursor, .imeFinish]

end Composition

end WindowRelay
