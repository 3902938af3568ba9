import WindowRelay.Json.Basic

/-!
Contract: the compact written form of JSON values.

Owns:
- which bytes of a string are escaped, and how;
- where a decimal number has its point and when it has an exponent;
- `Json.toBytes`, which writes a value without any blanks.

Output is collected with its last byte first, so lists of any length are written in constant
stack.
-/

namespace WindowRelay

namespace Json

/-- The letter behind the backslash for a byte that has a short escape. -/
def shortEscape? (byte : UInt8) : Option UInt8 :=
  if byte = Ascii.quote || byte = Ascii.backslash then some byte
  else if byte = 0x08 then some (Ascii.letter 'b')
  else if byte = 0x0c then some (Ascii.letter 'f')
  else if byte = Ascii.lineFeed then some (Ascii.letter 'n')
  else if byte = Ascii.carriageReturn then some (Ascii.letter 'r')
  else if byte = Ascii.tab then some (Ascii.letter 't')
  else none

/-- A byte inside a string. -/
def escape (byte : UInt8) : List UInt8 :=
  match shortEscape? byte with
  | some letter => [Ascii.backslash, letter]
  | none =>
    if byte < Ascii.space then
      [Ascii.backslash, Ascii.letter 'u', Ascii.letter '0', Ascii.letter '0',
        Ascii.hexDigit (byte.toNat / 16), Ascii.hexDigit (byte.toNat % 16)]
    else [byte]

/-- How a decimal is laid out: numbers with at least one digit before the point are positional up
to `wholeDigits` digits there, and numbers below one up to `leadingZeros` zeros behind the point. -/
structure Layout where
  wholeDigits : Nat
  leadingZeros : Nat

/-- Whole parts of up to thirteen digits and fractions with up to five zeros are positional. -/
def layout : Layout := ⟨13, 5⟩

def zeros (count : Nat) : List UInt8 :=
  List.replicate count (Ascii.letter '0')

/-- The magnitude of a decimal. There always is a point or an exponent, and an exponent always has
its sign. -/
def magnitude (significand : Nat) (exponent : Int) : List UInt8 :=
  let digits := Ascii.decimal significand
  let before : Int := digits.length + exponent
  if significand = 0 then digits ++ [Ascii.point] ++ zeros 1
  else if 0 ≤ exponent && before ≤ layout.wholeDigits then
    digits ++ zeros exponent.toNat ++ [Ascii.point] ++ zeros 1
  else if 0 < before && before ≤ layout.wholeDigits then
    digits.take before.toNat ++ [Ascii.point] ++ digits.drop before.toNat
  else if before ≤ 0 && -before ≤ layout.leadingZeros then
    zeros 1 ++ [Ascii.point] ++ zeros (-before).toNat ++ digits
  else
    let fraction := digits.drop 1
    let power := before - 1
    digits.take 1 ++ (if fraction.isEmpty then [] else Ascii.point :: fraction) ++
      [Ascii.letter 'e', if power < 0 then Ascii.minus else Ascii.plus] ++
      Ascii.decimal power.natAbs

/-- A number; the sign of a zero is kept. -/
def Number.bytes : Number → List UInt8
  | whole negative magnitude =>
    (if negative then [Ascii.minus] else []) ++ Ascii.decimal magnitude
  | decimal value =>
    (if value.negative then [Ascii.minus] else []) ++
      Json.magnitude value.significand value.exponent

/-- Append a string with its quotes to reversed output. -/
def emitText (text : String) (output : List UInt8) : List UInt8 :=
  Ascii.quote ::
    (Text.bytes text).foldl (fun output byte => (escape byte).reverse ++ output)
      (Ascii.quote :: output)

mutual

/-- Append a value to reversed output. -/
def emit (value : Json) (output : List UInt8) : List UInt8 :=
  match value with
  | null | unreadable => (Text.bytes "null").reverse ++ output
  | bool true => (Text.bytes "true").reverse ++ output
  | bool false => (Text.bytes "false").reverse ++ output
  | number value => value.bytes.reverse ++ output
  | string text => emitText text output
  | array [] => Ascii.closeBracket :: Ascii.openBracket :: output
  | array (item :: rest) =>
    Ascii.closeBracket :: emitItems rest (emit item (Ascii.openBracket :: output))
  | object [] => Ascii.closeBrace :: Ascii.openBrace :: output
  | object ((name, value) :: rest) =>
    Ascii.closeBrace ::
      emitMembers rest (emit value (Ascii.colon :: emitText name (Ascii.openBrace :: output)))

/-- Append more items, each behind a comma. -/
def emitItems (items : List Json) (output : List UInt8) : List UInt8 :=
  match items with
  | [] => output
  | item :: rest => emitItems rest (emit item (Ascii.comma :: output))

/-- Append more members, each behind a comma. -/
def emitMembers (members : List (String × Json)) (output : List UInt8) : List UInt8 :=
  match members with
  | [] => output
  | (name, value) :: rest =>
    emitMembers rest (emit value (Ascii.colon :: emitText name (Ascii.comma :: output)))

end

/-- The written form of a value. -/
def toBytes (value : Json) : List UInt8 :=
  (emit value []).reverse

/-- The written form of a value as a text. -/
def toText (value : Json) : String :=
  (Text.ofBytes? value.toBytes).getD ""

end Json

end WindowRelay
