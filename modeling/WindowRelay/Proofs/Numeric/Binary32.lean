import Mathlib.Algebra.Group.Nat.Defs
import WindowRelay.Numeric.Decimal

/-!
Contract: which single-precision numbers have a decimal, and how large its parts get.

Owns:
- finite numbers; a number that is not finite is an infinity;
- bounds on the digits and on the exponent of the shortest decimal.

Does not own: that the shortest decimal is read as the number.
-/

namespace WindowRelay

namespace Binary32

/-! ## Finite numbers -/

/-- Neither an infinity nor no number at all. -/
def isFinite (number : Binary32) : Bool :=
  match number.datum with
  | .finite .. => true
  | _ => false

/-- What is not finite has no decimal. -/
theorem toDecimal?_of_isFinite_eq_false {number : Binary32} (notFinite : number.isFinite = false) :
    number.toDecimal? = none := by
  unfold isFinite at notFinite
  unfold toDecimal?
  split at notFinite
  · cases notFinite
  · next noFinite =>
      split
      · rfl
      · rfl
      · next isFinite => exact absurd isFinite (noFinite _ _ _)

theorem magnitudeBits_abs (number : Binary32) :
    number.abs.magnitudeBits = number.magnitudeBits := by
  have small : number.magnitudeBits < 2 ^ 31 := Nat.mod_lt _ (by decide)
  have bits : signBit = 2 ^ 31 := rfl
  have size : UInt32.size = 2 ^ 32 := rfl
  simp only [abs, ofSignMagnitude, magnitudeBits, UInt32.toNat_ofNat', bits] at small ⊢
  simp

/-- What is not finite is an infinity, if it is a number. -/
theorem datum_of_isFinite_eq_false {number : Binary32} (notFinite : number.isFinite = false)
    (isNumber : number.isNaN = false) : number.datum = .infinite number.isNegative := by
  have leading : leadingBit = 2 ^ 23 := rfl
  have infinite : infinityBits = 255 * 2 ^ 23 := rfl
  simp only [isNaN, infinite, decide_eq_false_iff_not, Nat.not_lt] at isNumber
  by_cases isLast : number.magnitudeBits / leadingBit = 255
  · have noFraction : number.magnitudeBits % leadingBit = 0 := by
      rw [leading] at isLast ⊢
      omega
    simp [datum, isLast, noFraction]
  · have isFinite : number.isFinite = true := by
      unfold Binary32.isFinite datum
      rw [if_neg isLast]
      by_cases isLeast : number.magnitudeBits / leadingBit = 0
      · rw [if_pos isLeast]
      · rw [if_neg isLeast]
    cases isFinite.symm.trans notFinite

/-! ## Shortest decimals -/

theorem bounds_of_datum {number : Binary32} {negative : Bool} {significand : Nat} {exponent : Int}
    (isFinite : number.datum = .finite negative significand exponent) :
    significand < 2 ^ 24 ∧ exponent ≤ 105 := by
  have magnitude : number.magnitudeBits < 2 ^ 31 := Nat.mod_lt _ (by decide)
  have leading : leadingBit = 2 ^ 23 := rfl
  unfold datum at isFinite
  simp only [leading] at isFinite
  split at isFinite
  · split at isFinite <;> cases isFinite
  · split at isFinite
    all_goals
      cases isFinite
      omega

theorem exists_of_nearer {candidates : List (Nat × Nat)} {point : Nat}
    (nearest : nearer candidates = some point) : ∃ distance, (point, distance) ∈ candidates := by
  unfold nearer at nearest
  split at nearest
  · cases nearest
  · cases nearest
    exact ⟨_, List.mem_singleton_self _⟩
  · split at nearest
    · cases nearest
      exact ⟨_, List.mem_cons_self⟩
    · split at nearest
      · cases nearest
        exact ⟨_, List.mem_cons_of_mem _ List.mem_cons_self⟩
      · cases nearest
        split
        · exact ⟨_, List.mem_cons_self⟩
        · exact ⟨_, List.mem_cons_of_mem _ List.mem_cons_self⟩

/-- A candidate is at most next to the number, which is counted in the units of the grid. -/
theorem le_of_mem_gridCandidates {significand : Nat} {exponent power : Int} {point distance : Nat}
    (candidate : (point, distance) ∈ gridCandidates significand exponent power) :
    point ≤ 4 * significand * (10 ^ (-power).toNat * 2 ^ (exponent - 2).toNat) + 1 := by
  have next := (List.mem_filter.mp candidate).1
  have scale : Nat.pow 10 (-power).toNat <<< (exponent - 2).toNat =
      10 ^ (-power).toNat * 2 ^ (exponent - 2).toNat := Nat.shiftLeft_eq _ _
  simp only [scale, List.mem_cons, Prod.mk.injEq, List.not_mem_nil, or_false] at next
  rcases next with ⟨rfl, -⟩ | ⟨rfl, -⟩
  · exact Nat.le_succ_of_le (Nat.div_le_self _ _)
  · exact Nat.add_le_add_right (Nat.div_le_self _ _) 1

theorem bounds_of_toDecimal? {number : Binary32} {decimal : Decimal}
    (shortest : number.toDecimal? = some decimal) :
    decimal.significand < 10 ^ 110 ∧ decimal.exponent.natAbs ≤ 61 := by
  unfold toDecimal? at shortest
  split at shortest
  · cases shortest
  · cases shortest
  · next negative significand exponent isFinite =>
      obtain ⟨fewBits, notLarge⟩ := bounds_of_datum isFinite
      split at shortest
      · cases shortest
        exact ⟨Nat.pow_pos (by decide), Nat.zero_le _⟩
      · obtain ⟨power, isPower, found⟩ := List.exists_of_findSome?_eq_some shortest
        obtain ⟨point, nearest, rfl⟩ := Option.map_eq_some_iff.mp found
        obtain ⟨index, small, rfl⟩ := List.mem_map.mp isPower
        have inRange : index < 100 := List.mem_range.mp small
        obtain ⟨distance, candidate⟩ := exists_of_nearer nearest
        -- The grid ends at 10^-61; the significand has 24 bits and the exponent adds 103.
        have tens : 10 ^ (-(38 - (index : Int))).toNat ≤ 10 ^ 61 :=
          Nat.pow_le_pow_right (by decide) (by omega)
        have twos : 2 ^ (exponent - 2).toNat ≤ 2 ^ 103 :=
          Nat.pow_le_pow_right (by decide) (by omega)
        have scale := Nat.mul_le_mul tens twos
        have least : 4 * significand ≤ 4 * 2 ^ 24 := by omega
        have product := Nat.mul_le_mul least scale
        have limit : 4 * 2 ^ 24 * (10 ^ 61 * 2 ^ 103) + 1 < 10 ^ 110 := by decide +kernel
        have near := le_of_mem_gridCandidates candidate
        constructor
        · show point < 10 ^ 110
          omega
        · show (38 - (index : Int)).natAbs ≤ 61
          omega

end Binary32

end WindowRelay
