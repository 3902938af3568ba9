import WindowRelay.Numeric.Decimal
import WindowRelay.Text.Ascii

/-!
Contract: values of JSON texts.

Owns:
- the values, with numbers as they are written;
- which values can be read as data, and the reading of numbers, flags and texts.

A text can be well formed and still stand for no data: a string that is not Unicode, or a number
beyond double precision. Such values may be skipped but not read.

Does not own: the grammar (`Json.Reader`) and the written form (`Json.Printer`).
-/

namespace WindowRelay

namespace Json

/-- A number as written: without a fraction and an exponent, or with one of them. -/
inductive Number where
  | whole (negative : Bool) (magnitude : Nat)
  | decimal (value : Decimal)
deriving DecidableEq, Repr

namespace Number

def ofNat (value : Nat) : Number := whole false value

def ofInt (value : Int) : Number := whole (value < 0) value.natAbs

/-- Whether a whole number is kept exactly; minus zero and numbers out of the ranges of 64 bits
are not. -/
def isExact (negative : Bool) (magnitude : Nat) : Bool :=
  if negative then 0 < magnitude && magnitude ≤ UInt64.size / 2 else magnitude < UInt64.size

/-- A nonnegative number below a limit. -/
def toNat? (limit : Nat) : Number → Option Nat
  | whole false magnitude => if magnitude < limit then some magnitude else none
  | _ => none

def toInt32? : Number → Option Int32
  | whole false magnitude =>
    if magnitude < UInt32.size / 2 then some (Int32.ofInt magnitude) else none
  | whole true magnitude =>
    if 0 < magnitude && magnitude ≤ UInt32.size / 2 then some (Int32.ofInt (-magnitude)) else none
  | decimal _ => none

/-- A single-precision number; there is none if the number is beyond double precision. An exact
whole number is rounded once. -/
def toBinary32? : Number → Option Binary32
  | whole negative magnitude =>
    if isExact negative magnitude then some (Binary32.ofQuotient negative magnitude 1)
    else Decimal.toBinary32? ⟨negative, magnitude, 0⟩
  | decimal value => value.toBinary32?

end Number

end Json

/-- A JSON value. Members keep their order and may repeat a name. -/
inductive Json where
  | null
  | bool (value : Bool)
  | number (value : Json.Number)
  | string (text : String)
  | array (items : List Json)
  | object (members : List (String × Json))
  /-- a string, or an object with a name, that is not Unicode -/
  | unreadable
deriving BEq, Repr

namespace Json

def ofNat (value : Nat) : Json := number (.ofNat value)
def ofUInt32 (value : UInt32) : Json := ofNat value.toNat
def ofUInt64 (value : UInt64) : Json := ofNat value.toNat
def ofInt32 (value : Int32) : Json := number (.ofInt value.toInt)

/-- A number that is not finite is written as `null`. -/
def ofBinary32 (value : Binary32) : Json :=
  match value.toDecimal? with
  | some decimal => number (.decimal decimal)
  | none => null

def ofOption (encode : α → Json) : Option α → Json
  | some value => encode value
  | none => null

def ofList (encode : α → Json) (values : List α) : Json :=
  array (values.map encode)

def toUInt32? : Json → Option UInt32
  | number value => (value.toNat? UInt32.size).map UInt32.ofNat
  | _ => none

def toUInt64? : Json → Option UInt64
  | number value => (value.toNat? UInt64.size).map UInt64.ofNat
  | _ => none

def toInt32? : Json → Option Int32
  | number value => value.toInt32?
  | _ => none

def toBinary32? : Json → Option Binary32
  | number value => value.toBinary32?
  | _ => none

def toBool? : Json → Option Bool
  | bool value => some value
  | _ => none

def toText? : Json → Option String
  | string text => some text
  | _ => none

def toList? (decode : Json → Option α) : Json → Option (List α)
  | array items => items.mapM decode
  | _ => none

mutual

/-- Whether all of a value can be read as data, with at most `depth` containers inside each
other. -/
def isReadable (depth : Nat) : Json → Bool
  | null | bool _ | string _ => true
  | number value => value.toBinary32?.isSome
  | array items =>
    match depth with
    | 0 => false
    | inner + 1 => areReadable inner items
  | object members =>
    match depth with
    | 0 => false
    | inner + 1 => areMembersReadable inner members
  | unreadable => false

def areReadable (depth : Nat) : List Json → Bool
  | [] => true
  | item :: rest => isReadable depth item && areReadable depth rest

def areMembersReadable (depth : Nat) : List (String × Json) → Bool
  | [] => true
  | (_, value) :: rest => isReadable depth value && areMembersReadable depth rest

end

end Json

end WindowRelay
