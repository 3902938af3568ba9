/-!
Contract: whole-number coordinates of the desktop, with arithmetic that never wraps.

Owns:
- the coordinate type and the three checked operations;
- the three causes of an arithmetic fault and their texts.

Does not own: rectangles, layouts, or what a session does after a fault.
-/

namespace WindowRelay

/-- A position or an extent on the desktop: a signed 32-bit whole number. -/
abbrev Coordinate := Int32

/-- The operation whose exact result is no coordinate. -/
inductive Overflow where
  | addition
  | subtraction
  | negation
deriving DecidableEq, Repr

/-- The text under which a fault is reported. -/
def Overflow.message : Overflow → String
  | .addition => "attempt to add with overflow"
  | .subtraction => "attempt to subtract with overflow"
  | .negation => "attempt to negate with overflow"

namespace Coordinate

/-- A whole number that is a coordinate. -/
def Fits (value : Int) : Prop :=
  -2147483648 ≤ value ∧ value ≤ 2147483647

instance (value : Int) : Decidable (Fits value) := by
  unfold Fits
  infer_instance

/-- The coordinate with exactly this value, or the fault `cause`. -/
def exactly (cause : Overflow) (value : Int) : Except Overflow Coordinate :=
  if Fits value then .ok (Int32.ofInt value) else .error cause

def add (left right : Coordinate) : Except Overflow Coordinate :=
  exactly .addition (left.toInt + right.toInt)

def sub (left right : Coordinate) : Except Overflow Coordinate :=
  exactly .subtraction (left.toInt - right.toInt)

def neg (value : Coordinate) : Except Overflow Coordinate :=
  exactly .negation (-value.toInt)

/-- The coordinate nearest to a whole number. -/
def clamp (value : Int) : Coordinate :=
  Int32.ofInt (max (-2147483648) (min value 2147483647))

theorem fits_toInt (value : Coordinate) : Fits value.toInt := by
  have lower := value.le_toInt
  have upper := value.toInt_lt
  unfold Fits
  omega

theorem toInt_ofInt_of_fits {value : Int} (fits : Fits value) :
    (Int32.ofInt value).toInt = value := by
  unfold Fits at fits
  exact Int32.toInt_ofInt_of_le (by omega) (by omega)

/-- A checked result is the exact one. -/
theorem toInt_of_exactly {cause : Overflow} {value : Int} {result : Coordinate}
    (succeeded : exactly cause value = .ok result) : result.toInt = value := by
  unfold exactly at succeeded
  split at succeeded
  · next fits =>
      cases succeeded
      exact toInt_ofInt_of_fits fits
  · cases succeeded

end Coordinate

end WindowRelay
