import WindowRelay.Json.Printer
import WindowRelay.Json.Reader

/-!
Contract: strings that are written and read back.

Owns:
- bytes that are taken one after the other;
- every byte comes back from its escape;
- a written text comes back, as a value or as a name.
-/

namespace WindowRelay

namespace Json

/-! ## Runs of the machine -/

namespace Machine

theorem run?_cons {machine next : Machine} {byte : UInt8} {rest : List UInt8}
    (stepped : machine.step? byte = some next) :
    machine.run? (byte :: rest) = next.run? rest := by
  rw [run?, stepped]

theorem run?_append (machine : Machine) (earlier later : List UInt8) :
    machine.run? (earlier ++ later) = (machine.run? earlier).bind (·.run? later) := by
  induction earlier generalizing machine with
  | nil => rfl
  | cons byte rest inductionHypothesis =>
      cases stepped : machine.step? byte with
      | none => simp [run?, stepped]
      | some next => simp [run?, stepped, inductionHypothesis]

end Machine

/-! ## Escapes -/

/-- A short escape stands for the byte that has it. -/
theorem escaped?_of_shortEscape? {byte letter : UInt8} (short : shortEscape? byte = some letter) :
    escaped? letter = some byte ∧ letter ≠ Ascii.letter 'u' := by
  unfold shortEscape? at short
  split at short
  · next itself =>
      cases short
      simp only [Bool.or_eq_true, decide_eq_true_eq] at itself
      rcases itself with rfl | rfl <;> decide
  all_goals repeat' split at short
  all_goals cases short
  all_goals subst_vars
  all_goals decide

theorem ne_of_shortEscape?_eq_none {byte : UInt8} (plain : shortEscape? byte = none) :
    byte ≠ Ascii.quote ∧ byte ≠ Ascii.backslash := by
  constructor
  all_goals
    rintro rfl
    cases plain

theorem hexDigit?_hexDigit {value : Nat} (small : value < 16) :
    Ascii.hexDigit? (Ascii.hexDigit value) = some value := by
  have all : ∀ value < 16, Ascii.hexDigit? (Ascii.hexDigit value) = some value := by decide
  exact all value small

/-- A control character is written as one byte. -/
theorem utf8EncodeChar_control {value : Nat} (control : value < 32) :
    String.utf8EncodeChar (Char.ofNat value) = [UInt8.ofNat value] := by
  have all : ∀ value < 32, String.utf8EncodeChar (Char.ofNat value) = [UInt8.ofNat value] := by
    decide
  exact all value control

section Running

variable {isName : Bool} {reversed : List UInt8} {frames : List Frame}

open Machine

/-- A control character comes back from its four hexadecimal digits. -/
theorem run?_unit {byte : UInt8} (control : byte < Ascii.space) :
    run? ⟨.unit isName (.bytes reversed) 4 0, frames⟩
        [Ascii.letter '0', Ascii.letter '0', Ascii.hexDigit (byte.toNat / 16),
          Ascii.hexDigit (byte.toNat % 16)] =
      some ⟨.string isName (.bytes (byte :: reversed)), frames⟩ := by
  have small : byte.toNat < 32 := control
  have zero : Ascii.hexDigit? (Ascii.letter '0') = some 0 := by decide
  have high := hexDigit?_hexDigit (by omega : byte.toNat / 16 < 16)
  have low := hexDigit?_hexDigit (by omega : byte.toNat % 16 < 16)
  have pushed : Content.pushUnit (byte.toNat / 16 * 16 + byte.toNat % 16) (.bytes reversed) =
      .bytes (byte :: reversed) := by
    rw [Nat.div_add_mod']
    simp only [Content.pushUnit, utf8EncodeChar_control small]
    rw [if_pos (by simp; omega)]
    simp
  simp [run?, step?, zero, high, low, pushed]

/-- Every byte comes back from its escape. -/
theorem run?_escape (byte : UInt8) :
    run? ⟨.string isName (.bytes reversed), frames⟩ (escape byte) =
      some ⟨.string isName (.bytes (byte :: reversed)), frames⟩ := by
  have opens : step? ⟨.string isName (.bytes reversed), frames⟩ Ascii.backslash =
      some ⟨.escape isName (.bytes reversed), frames⟩ := rfl
  unfold escape
  cases short : shortEscape? byte with
  | some letter =>
      obtain ⟨standsFor, noUnit⟩ := escaped?_of_shortEscape? short
      refine (run?_cons opens).trans ?_
      simp [run?, step?, standsFor, noUnit, Content.push]
  | none =>
      obtain ⟨noQuote, noBackslash⟩ := ne_of_shortEscape?_eq_none short
      dsimp only
      split
      · next control =>
          refine (run?_cons opens).trans ((run?_cons ?_).trans (run?_unit control))
          simp [step?]
      · next plain => simp [run?, step?, noQuote, noBackslash, plain, Content.push]

theorem run?_escapes (bytes : List UInt8) :
    run? ⟨.string isName (.bytes reversed), frames⟩ (bytes.flatMap escape) =
      some ⟨.string isName (.bytes (bytes.reverse ++ reversed)), frames⟩ := by
  induction bytes generalizing reversed with
  | nil => rfl
  | cons byte rest inductionHypothesis =>
      rw [List.flatMap_cons, run?_append, run?_escape, Option.bind_some, inductionHypothesis]
      simp

/-! ## Texts -/

/-- The written form of a text, with its quotes. -/
def textBytes (text : String) : List UInt8 :=
  Ascii.quote :: ((Text.bytes text).flatMap escape ++ [Ascii.quote])

theorem emitText_eq (text : String) (output : List UInt8) :
    emitText text output = (textBytes text).reverse ++ output := by
  have collected : ∀ (bytes output : List UInt8),
      bytes.foldl (fun output byte => (escape byte).reverse ++ output) output =
        (bytes.flatMap escape).reverse ++ output := by
    intro bytes
    induction bytes with
    | nil => exact fun _ => rfl
    | cons byte rest inductionHypothesis =>
        intro output
        rw [List.foldl_cons, inductionHypothesis]
        simp
  rw [emitText, collected]
  simp [textBytes]

/-- Behind its first quote, a written text comes back at its last quote. -/
theorem run?_text (text : String) :
    run? ⟨.string isName (.bytes []), frames⟩
        ((Text.bytes text).flatMap escape ++ [Ascii.quote]) =
      some (endString isName (.bytes (Text.bytes text).reverse) frames) := by
  rw [run?_append, run?_escapes, List.append_nil]
  rfl

theorem text?_bytes (text : String) :
    Content.text? (.bytes (Text.bytes text).reverse) = some text := by
  rw [Content.text?, List.reverse_reverse, Text.ofBytes?_bytes]

/-- A text as a value. -/
theorem run?_textValue (text : String) :
    run? ⟨.value, frames⟩ (textBytes text) = some ⟨.complete (.string text), frames⟩ := by
  have opens : step? ⟨.value, frames⟩ Ascii.quote =
      some ⟨.string false (.bytes []), frames⟩ := rfl
  rw [textBytes, run?_cons opens, run?_text]
  simp [endString, text?_bytes]

/-- A text as a name, where one may stand. -/
theorem run?_textName (text : String) {scan : Scan} {before : Option (List (String × Json))}
    {name : Option String} {outer : List Frame}
    (expects : scan = .name ∨ scan = .nameOrClose) :
    run? ⟨scan, .members before name :: outer⟩ (textBytes text) =
      some ⟨.colon, .members before (some text) :: outer⟩ := by
  have opens : step? ⟨scan, .members before name :: outer⟩ Ascii.quote =
      some ⟨.string true (.bytes []), .members before name :: outer⟩ := by
    rcases expects with rfl | rfl <;> rfl
  rw [textBytes, run?_cons opens, run?_text]
  simp [endString, text?_bytes]

end Running

end Json

end WindowRelay
