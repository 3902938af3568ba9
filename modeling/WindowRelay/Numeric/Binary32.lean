import WindowRelay.Numeric.Coordinate
import WindowRelay.Numeric.Rounding

/-!
Contract: single-precision binary numbers by their bit patterns, with exact arithmetic and one
rounding per operation.

Owns:
- what a bit pattern stands for;
- conversion from whole numbers and quotients, sum and quotient, comparison;
- conversion to coordinates by rounding half away from zero or by truncation.

Does not own: decimal texts (`Numeric.Decimal`).
-/

namespace WindowRelay

/-- A single-precision number, stored as its 32 bits. -/
structure Binary32 where
  bits : UInt32
deriving DecidableEq, Repr

namespace Binary32

/-- What a bit pattern stands for; a finite number is `significand * 2^exponent` with a sign. -/
inductive Datum where
  | notANumber
  | infinite (negative : Bool)
  | finite (negative : Bool) (significand : Nat) (exponent : Int)
deriving DecidableEq, Repr

def signBit : Nat := 1 <<< 31
def infinityBits : Nat := 255 <<< 23

/-- The leading bit of a significand that has all its bits. -/
def leadingBit : Nat := 1 <<< 23

def isNegative (number : Binary32) : Bool :=
  signBit ≤ number.bits.toNat

/-- The bits without the sign. -/
def magnitudeBits (number : Binary32) : Nat :=
  number.bits.toNat % signBit

def datum (number : Binary32) : Datum :=
  let field : Nat := number.magnitudeBits / leadingBit
  let fraction : Nat := number.magnitudeBits % leadingBit
  if field = 255 then
    if fraction = 0 then .infinite number.isNegative else .notANumber
  else if field = 0 then .finite number.isNegative fraction (-149)
  else .finite number.isNegative (leadingBit + fraction) ((field : Int) - 150)

def ofSignMagnitude (negative : Bool) (magnitude : Nat) : Binary32 :=
  ⟨UInt32.ofNat (magnitude + if negative then signBit else 0)⟩

def notANumber : Binary32 := ⟨0x7fc00000⟩
def infinity (negative : Bool) : Binary32 := ofSignMagnitude negative infinityBits
def zero : Binary32 := ⟨0⟩
def one : Binary32 := ⟨0x3f800000⟩

/-- The number nearest to `numerator / denominator` with the given sign, infinity when it is too
large. The bits of a nonnegative number grow with its value by one per step, so the exponent
field and the significand simply add up. -/
def ofQuotient (negative : Bool) (numerator denominator : Nat) : Binary32 :=
  if numerator = 0 then ofSignMagnitude negative 0
  else
    let (significand, exponent) := BinaryFormat.binary32.round numerator denominator
    ofSignMagnitude negative (min ((exponent + 149).toNat <<< 23 + significand) infinityBits)

/-- The number nearest to `significand * 2^exponent` with the given sign. -/
def ofScaled (negative : Bool) (significand : Nat) (exponent : Int) : Binary32 :=
  ofQuotient negative (significand <<< exponent.toNat) (1 <<< (-exponent).toNat)

def ofInt (value : Int) : Binary32 :=
  ofQuotient (value < 0) value.natAbs 1

def ofNat (value : Nat) : Binary32 :=
  ofQuotient false value 1

/-- A finite number as a multiple of `2^least`, for an exponent of at least `least`. -/
def alignedTo (least : Int) (negative : Bool) (significand : Nat) (exponent : Int) : Int :=
  let magnitude : Int := Int.ofNat (significand <<< (exponent - least).toNat)
  if negative then -magnitude else magnitude

/-- The rounded sum. An exact zero is negative only if both operands are. -/
def add (left right : Binary32) : Binary32 :=
  match left.datum, right.datum with
  | .notANumber, _ => notANumber
  | _, .notANumber => notANumber
  | .infinite leftSign, .infinite rightSign =>
    if leftSign = rightSign then infinity leftSign else notANumber
  | .infinite sign, .finite .. => infinity sign
  | .finite .., .infinite sign => infinity sign
  | .finite leftSign leftSignificand leftExponent,
      .finite rightSign rightSignificand rightExponent =>
    let least := min leftExponent rightExponent
    let sum := alignedTo least leftSign leftSignificand leftExponent +
      alignedTo least rightSign rightSignificand rightExponent
    if sum = 0 then ofSignMagnitude (leftSign && rightSign) 0
    else ofScaled (sum < 0) sum.natAbs least

/-- The rounded quotient. -/
def div (left right : Binary32) : Binary32 :=
  match left.datum, right.datum with
  | .notANumber, _ => notANumber
  | _, .notANumber => notANumber
  | .infinite _, .infinite _ => notANumber
  | .infinite leftSign, .finite rightSign _ _ => infinity (leftSign != rightSign)
  | .finite leftSign _ _, .infinite rightSign => ofSignMagnitude (leftSign != rightSign) 0
  | .finite leftSign leftSignificand leftExponent,
      .finite rightSign rightSignificand rightExponent =>
    let negative := leftSign != rightSign
    if rightSignificand = 0 then
      if leftSignificand = 0 then notANumber else infinity negative
    else
      ofQuotient negative (leftSignificand <<< (leftExponent - rightExponent).toNat)
        (rightSignificand <<< (rightExponent - leftExponent).toNat)

def abs (number : Binary32) : Binary32 :=
  ofSignMagnitude false number.magnitudeBits

/-- Both zeros are zero. -/
def isZero (number : Binary32) : Bool :=
  number.magnitudeBits == 0

def isNaN (number : Binary32) : Bool :=
  infinityBits < number.magnitudeBits

/-- The position of a number among the ordered numbers: the magnitude bits with the sign. -/
def rank (number : Binary32) : Int :=
  if number.isNegative then -(number.magnitudeBits : Int) else number.magnitudeBits

def lt (left right : Binary32) : Bool :=
  !left.isNaN && !right.isNaN && decide (left.rank < right.rank)

/-- Conversion to a coordinate by a rule for the magnitude: out of range goes to the nearest
coordinate, no number to zero. -/
def toCoordinateBy (magnitude : Nat → Nat → Nat) (number : Binary32) : Coordinate :=
  match number.datum with
  | .notANumber => 0
  | .infinite negative => Coordinate.clamp (if negative then -signBit else signBit)
  | .finite negative significand exponent =>
    let whole : Int :=
      magnitude (significand <<< exponent.toNat) (1 <<< (-exponent).toNat)
    Coordinate.clamp (if negative then -whole else whole)

/-- The nearest coordinate; a half goes away from zero. -/
def roundToCoordinate : Binary32 → Coordinate :=
  toCoordinateBy fun numerator denominator => (2 * numerator + denominator) / (2 * denominator)

/-- The coordinate without the fraction. -/
def truncateToCoordinate : Binary32 → Coordinate :=
  toCoordinateBy fun numerator denominator => numerator / denominator

end Binary32

end WindowRelay
