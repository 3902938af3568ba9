import WindowRelay.Numeric.Binary32

/-!
Contract: decimal numbers and single-precision numbers read from them and written as them.

Owns:
- reading: a decimal becomes a double-precision number in rounded steps, and that one is rounded
  to single precision;
- the nearest number of double precision;
- writing: the shortest decimal that rounds to a number, and of those the nearest.

Does not own: the layout of digits (`Json.Printer`).
-/

namespace WindowRelay

/-- The number `significand * 10^exponent` with a sign, which a zero has too. -/
structure Decimal where
  negative : Bool
  significand : Nat
  exponent : Int
deriving DecidableEq, Repr

namespace Decimal

/-- The largest power of ten in double precision. -/
def largestPower : Int := 308

/-- Whether `significand * 2^exponent` is too large for double precision. -/
def overflows (significand : Nat) (exponent : Int) : Bool :=
  1 <<< 1024 ≤ significand <<< exponent.toNat

/-- The nearest magnitude in double precision as `significand * 2^exponent`, or `none` when it is
too large. Decimals below the square of the least power of ten are zero. -/
def nearestBinary64? (decimal : Decimal) : Option (Nat × Int) :=
  let digits : Int := Nat.log2 decimal.significand / 3 + 1
  if decimal.significand = 0 || decimal.exponent + digits < -2 * largestPower then some (0, 0)
  else if largestPower < decimal.exponent then none
  else
    let (significand, exponent) :=
      BinaryFormat.binary64.round (decimal.significand * Nat.pow 10 decimal.exponent.toNat)
        (Nat.pow 10 (-decimal.exponent).toNat)
    if overflows significand exponent then none else some (significand, exponent)

/-- The leading digits of a number that stay below a limit, and how many digits follow them. -/
def leadingDigits (limit number : Nat) : Nat × Nat :=
  if number = 0 || number < limit then (number, 0)
  else
    let (digits, following) := leadingDigits limit (number / 10)
    (digits, following + 1)
termination_by number
decreasing_by
  simp only [Bool.or_eq_true, decide_eq_true_eq] at *
  omega

/-- The magnitude in double precision, computed in steps, as `significand * 2^exponent`, or `none`
when it is too large. The leading digits that fit in 64 bits are rounded, the power of ten is, and
so is their product or quotient. Beyond the least power of ten only zero is left in single
precision. -/
def steppedBinary64? (decimal : Decimal) : Option (Nat × Int) :=
  let (digits, following) := leadingDigits UInt64.size decimal.significand
  let power := decimal.exponent + following
  if digits = 0 || power < -largestPower then some (0, 0)
  else if largestPower < power then none
  else
    let leading := BinaryFormat.binary64.roundWhole digits
    let factor := BinaryFormat.binary64.roundWhole (Nat.pow 10 power.natAbs)
    if power < 0 then some (BinaryFormat.binary64.round leading factor)
    else
      let (significand, exponent) := BinaryFormat.binary64.round (leading * factor) 1
      if overflows significand exponent then none else some (significand, exponent)

/-- The single-precision number read from a decimal by way of double precision, unless that
overflows. -/
def toBinary32? (decimal : Decimal) : Option Binary32 :=
  decimal.steppedBinary64?.map fun (significand, exponent) =>
    Binary32.ofScaled decimal.negative significand exponent

end Decimal

namespace Binary32

/-- The decimals of one power of ten next to a number on both sides, and whether they lie in the
interval of those that round to the number. All is in quarters of a unit of the number: it is
`4 * significand` of them, and the interval reaches two up and two down, or one down where the
unit below is half as large. -/
def gridCandidates (significand : Nat) (exponent power : Int) : List (Nat × Nat) :=
  let below := if significand = leadingBit && -149 < exponent then 1 else 2
  let scale := Nat.pow 10 (-power).toNat <<< (exponent - 2).toNat
  let grid := Nat.pow 10 power.toNat <<< (2 - exponent).toNat
  let value := 4 * significand * scale
  let least := (4 * significand - below) * scale
  let most := (4 * significand + 2) * scale
  let inside (point : Nat) : Bool :=
    if significand % 2 = 0 then least ≤ point * grid && point * grid ≤ most
    else least < point * grid && point * grid < most
  let floor := value / grid
  ([(floor, value - floor * grid), (floor + 1, (floor + 1) * grid - value)].filter
    fun candidate => candidate.1 != 0 && inside candidate.1)

/-- The nearer of the candidates; of two at one distance the even one. -/
def nearer : List (Nat × Nat) → Option Nat
  | [] => none
  | [(point, _)] => some point
  | (low, lowDistance) :: (high, highDistance) :: _ =>
    if lowDistance < highDistance then some low
    else if highDistance < lowDistance then some high
    else some (if low % 2 = 0 then low else high)

/-- The powers of ten at which a decimal can end, coarsest first. -/
def gridPowers : List Int :=
  (List.range 100).map fun (index : Nat) => 38 - (index : Int)

/-- The shortest decimal that rounds to a finite number. -/
def toDecimal? (number : Binary32) : Option Decimal :=
  match number.datum with
  | .notANumber | .infinite _ => none
  | .finite negative significand exponent =>
    if significand = 0 then some ⟨negative, 0, 0⟩
    else
      gridPowers.findSome? fun power =>
        (nearer (gridCandidates significand exponent power)).map fun point =>
          ⟨negative, point, power⟩

end Binary32

end WindowRelay
