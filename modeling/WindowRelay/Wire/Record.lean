import WindowRelay.Json.Basic

/-!
Contract: records and tagged variants as JSON values.

Owns:
- the fields of a record, given by name in an object or by position in an array;
- which fields may be left out;
- variants, told apart by a tag among the fields.

A name may stand once; names that a record does not know are passed over. An array must not have
more items than the record has fields.
-/

namespace WindowRelay

namespace Wire

/-- What a value says about one field of a record. -/
inductive Slot where
  | given (value : Json)
  /-- an object does not name the field -/
  | absent
  /-- an array ends before the field -/
  | beyond
deriving Repr

namespace Slot

/-- A field that must be given. -/
def required? (decode : Json → Option α) : Slot → Option α
  | given value => decode value
  | absent | beyond => none

/-- A field that may be `null`, or left out of an object. -/
def optional? (decode : Json → Option α) : Slot → Option (Option α)
  | given .null | absent => some none
  | given value => (decode value).map some
  | beyond => none

/-- A field that may be left out, but not be `null`. -/
def defaulted? (default : α) (decode : Json → Option α) : Slot → Option α
  | given value => decode value
  | absent | beyond => some default

end Slot

/-- The values that an object gives for a name. -/
def valuesOf (name : String) (members : List (String × Json)) : List Json :=
  (members.filter fun member => member.1 == name).map Prod.snd

/-- What an object says about a name, unless it repeats it. -/
def slotOf? (members : List (String × Json)) (name : String) : Option Slot :=
  match valuesOf name members with
  | [] => some .absent
  | [value] => some (.given value)
  | _ => none

/-- One slot for each of the fields of a record. -/
def slots? (names : List String) : Json → Option (List Slot)
  | .object members => names.mapM (slotOf? members)
  | .array items =>
    if items.length ≤ names.length then
      some (items.map Slot.given ++ List.replicate (names.length - items.length) .beyond)
    else none
  | _ => none

/-- A variant: the value of its tag, and a record of the other fields. The tag is the first item
of an array. -/
def untag? (tag : String) : Json → Option (Json × Json)
  | .object members =>
    match valuesOf tag members with
    | [value] => some (value, .object (members.filter fun member => member.1 != tag))
    | _ => none
  | .array (value :: rest) => some (value, .array rest)
  | _ => none

/-- The name of a variant. Where numbers are admitted, the position of the name stands for it. -/
def variant? (names : List String) (byNumber : Bool) : Json → Option String
  | .string text => if names.contains text then some text else none
  | .number value =>
    if byNumber then (value.toNat? UInt64.size).bind fun position => names[position]? else none
  | _ => none

/-- A variant without fields passes over all names, but an array must be empty. -/
def empty? : Json → Option Unit
  | .object _ | .array [] => some ()
  | _ => none

/-- A variant as an object, its tag first. -/
def tagged (tag name : String) (fields : List (String × Json)) : Json :=
  .object ((tag, .string name) :: fields)

end Wire

end WindowRelay
