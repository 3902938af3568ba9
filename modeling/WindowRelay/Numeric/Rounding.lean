/-!
Contract: rounding exact quotients to a binary format with a bounded significand.

Owns:
- the nearest whole number to a quotient, ties to even;
- the nearest significand and exponent of a binary format.

Does not own: bit patterns (`Numeric.Binary32`) or decimal texts (`Numeric.Decimal`).
-/

namespace WindowRelay

/-- The whole number nearest to `numerator / denominator`; a tie goes to the even neighbour. -/
def nearestEven (numerator denominator : Nat) : Nat :=
  let quotient := numerator / denominator
  let remainder := numerator % denominator
  if 2 * remainder < denominator then quotient
  else if denominator < 2 * remainder then quotient + 1
  else quotient + quotient % 2

/-- The exponent `e` with `2^e ≤ numerator / denominator < 2^(e+1)`, both arguments positive. -/
def floorLog2 (numerator denominator : Nat) : Int :=
  let estimate : Int := (Nat.log2 numerator : Int) - (Nat.log2 denominator : Int)
  if denominator <<< estimate.toNat ≤ numerator <<< (-estimate).toNat then estimate
  else estimate - 1

/-- A binary format: how many bits the significand has, and the least exponent. -/
structure BinaryFormat where
  precision : Nat
  leastExponent : Int
deriving DecidableEq, Repr

namespace BinaryFormat

def binary32 : BinaryFormat := ⟨24, -149⟩
def binary64 : BinaryFormat := ⟨53, -1074⟩

/-- The nearest `significand * 2^exponent` of the format, without an upper bound on the exponent.
The significand may reach `2^precision` by rounding up. -/
def round (format : BinaryFormat) (numerator denominator : Nat) : Nat × Int :=
  let exponent :=
    max (floorLog2 numerator denominator - ((format.precision : Int) - 1)) format.leastExponent
  (nearestEven (numerator <<< (-exponent).toNat) (denominator <<< exponent.toNat), exponent)

/-- The whole number of the format nearest to a whole number. -/
def roundWhole (format : BinaryFormat) (number : Nat) : Nat :=
  let (significand, exponent) := format.round number 1
  if exponent < 0 then number else significand <<< exponent.toNat

end BinaryFormat

end WindowRelay
