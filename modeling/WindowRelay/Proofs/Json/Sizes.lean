import Mathlib.Algebra.Group.Nat.Defs
import WindowRelay.Proofs.Json.Reading
import WindowRelay.Proofs.Numeric.Binary32

/-!
Contract: how long the written form of a value can get.

Owns:
- the digits of a number, the escapes of a text, the layout of a decimal;
- containers by the lengths of their parts;
- numbers, flags and short texts are brief.

The bounds are coarse: they tell values of a fixed size from texts of any length.
-/

namespace WindowRelay

theorem length_flatMap_le {α β : Type} {values : List α} {write : α → List β} {bound : Nat}
    (each : ∀ value ∈ values, (write value).length ≤ bound) :
    (values.flatMap write).length ≤ values.length * bound := by
  induction values with
  | nil => exact Nat.zero_le _
  | cons value rest inductionHypothesis =>
      have one := each value List.mem_cons_self
      have others := inductionHypothesis fun value member =>
        each value (List.mem_cons_of_mem _ member)
      rw [List.flatMap_cons, List.length_append, List.length_cons, Nat.succ_mul]
      omega

theorem Ascii.length_decimal_le {number count : Nat} (small : number < 10 ^ (count + 1)) :
    (decimal number).length ≤ count + 1 := by
  induction count generalizing number with
  | zero => simp [decimal_of_lt (by simpa using small : number < 10)]
  | succ count inductionHypothesis =>
      by_cases oneDigit : number < 10
      · simp [decimal_of_lt oneDigit]
      · have fewer : (decimal (number / 10)).length ≤ count + 1 := inductionHypothesis (by
          rw [Nat.pow_succ] at small
          omega)
        rw [decimal_of_ge (by omega), List.length_append, List.length_singleton]
        omega

namespace Json

/-! ## Texts and decimals -/

theorem length_escape_le (byte : UInt8) : (escape byte).length ≤ 6 := by
  unfold escape
  split
  · simp
  · split <;> simp

theorem length_textBytes_le (text : String) :
    (textBytes text).length ≤ (Text.bytes text).length * 6 + 2 := by
  have escapes : ((Text.bytes text).flatMap escape).length ≤ (Text.bytes text).length * 6 :=
    length_flatMap_le fun byte _ => length_escape_le byte
  simp only [textBytes, List.length_cons, List.length_append, List.length_nil]
  omega

theorem length_magnitude_le {significand : Nat} {exponent : Int}
    (digits : significand < 10 ^ 110) (small : exponent.natAbs ≤ 61) :
    (magnitude significand exponent).length ≤ 130 := by
  have few : (Ascii.decimal significand).length ≤ 110 := Ascii.length_decimal_le digits
  have wholeDigits : layout.wholeDigits = 13 := rfl
  have leadingZeros : layout.leadingZeros = 5 := rfl
  unfold magnitude
  dsimp only
  split
  · simp only [zeros, List.length_append, List.length_cons, List.length_nil, List.length_replicate]
    omega
  · split
    · next whole =>
        simp only [Bool.and_eq_true, decide_eq_true_eq] at whole
        simp only [zeros, List.length_append, List.length_cons, List.length_nil,
          List.length_replicate]
        omega
    · split
      · simp only [List.length_append, List.length_cons, List.length_nil, List.length_take,
          List.length_drop]
        omega
      · split
        · next below =>
            simp only [Bool.and_eq_true, decide_eq_true_eq] at below
            simp only [zeros, List.length_append, List.length_cons, List.length_nil,
              List.length_replicate]
            omega
        · have power : (Ascii.decimal
              ((Ascii.decimal significand).length + exponent - 1).natAbs).length ≤ 3 :=
            Ascii.length_decimal_le (by omega)
          split
          all_goals
            simp only [List.length_append, List.length_cons, List.length_nil, List.length_take,
              List.length_drop]
            omega

/-! ## Brief values -/

/-- The written form of a value does not take much room. -/
def Brief (value : Json) : Prop :=
  value.toBytes.length ≤ 2000

@[simp]
theorem brief_null : Brief null := by
  unfold Brief
  decide

@[simp]
theorem brief_bool (value : Bool) : Brief (bool value) := by
  unfold Brief
  cases value <;> decide

theorem brief_string {text : String} (short : (Text.bytes text).length ≤ 255) :
    Brief (string text) := by
  have escaped := length_textBytes_le text
  rw [Brief, toBytes_string]
  omega

theorem brief_whole {negative : Bool} {magnitude : Nat} (small : magnitude < 10 ^ 20) :
    Brief (number (.whole negative magnitude)) := by
  have digits : (Ascii.decimal magnitude).length ≤ 20 := Ascii.length_decimal_le small
  rw [Brief, toBytes_number, Number.bytes]
  split <;> simp only [List.length_append, List.length_cons, List.length_nil] <;> omega

@[simp]
theorem brief_ofUInt32 (value : UInt32) : Brief (ofUInt32 value) :=
  brief_whole (Nat.lt_trans value.toNat_lt (by decide))

@[simp]
theorem brief_ofUInt64 (value : UInt64) : Brief (ofUInt64 value) :=
  brief_whole (Nat.lt_trans value.toNat_lt (by decide))

@[simp]
theorem brief_ofInt32 (value : Int32) : Brief (ofInt32 value) := by
  have below := value.toInt_lt
  have above := value.le_toInt
  exact brief_whole (by omega)

theorem brief_ofOption {α : Type} {encode : α → Json} {value : Option α}
    (each : ∀ value, Brief (encode value)) : Brief (ofOption encode value) := by
  cases value with
  | none => exact brief_null
  | some value => exact each value

/-- A real number is written in few bytes, also if it is not finite. -/
theorem length_ofBinary32_le (value : Binary32) : (ofBinary32 value).toBytes.length ≤ 131 := by
  unfold ofBinary32
  split
  · next decimal shortest =>
      obtain ⟨digits, small⟩ := Binary32.bounds_of_toDecimal? shortest
      have few := length_magnitude_le digits small
      rw [toBytes_number, Number.bytes]
      split <;> simp only [List.length_append, List.length_cons, List.length_nil] <;> omega
  · decide

/-! ## Containers -/

theorem length_array_le {items : List Json} {bound : Nat}
    (each : ∀ item ∈ items, item.toBytes.length ≤ bound) :
    (array items).toBytes.length ≤ items.length * (bound + 1) + 2 := by
  cases items with
  | nil => exact Nat.le_add_left _ _
  | cons item rest =>
      have one := each item List.mem_cons_self
      have others : (moreItems rest).length ≤ rest.length * (bound + 1) :=
        length_flatMap_le fun item member =>
          Nat.succ_le_succ (each item (List.mem_cons_of_mem _ member))
      rw [toBytes_array_cons]
      simp only [List.length_cons, List.length_append, List.length_nil, Nat.succ_mul]
      omega

theorem length_object_le {members : List (String × Json)} {bound : Nat}
    (each : ∀ member ∈ members, (memberBytes member).length ≤ bound) :
    (object members).toBytes.length ≤ members.length * (bound + 1) + 2 := by
  cases members with
  | nil => exact Nat.le_add_left _ _
  | cons member rest =>
      have one := each member List.mem_cons_self
      have others : (moreMembers rest).length ≤ rest.length * (bound + 1) :=
        length_flatMap_le fun member isLater =>
          Nat.succ_le_succ (each member (List.mem_cons_of_mem _ isLater))
      rw [toBytes_object_cons]
      simp only [List.length_cons, List.length_append, List.length_nil, Nat.succ_mul]
      omega

end Json

end WindowRelay
