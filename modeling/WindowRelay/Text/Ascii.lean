/-!
Contract: the bytes of ASCII characters that have a meaning in written formats.

Owns:
- names for these bytes, digits and hexadecimal digits.
-/

namespace WindowRelay

namespace Ascii

def tab : UInt8 := 0x09
def lineFeed : UInt8 := 0x0a
def carriageReturn : UInt8 := 0x0d
def space : UInt8 := 0x20
def quote : UInt8 := 0x22
def plus : UInt8 := 0x2b
def comma : UInt8 := 0x2c
def minus : UInt8 := 0x2d
def point : UInt8 := 0x2e
def slash : UInt8 := 0x2f
def colon : UInt8 := 0x3a
def openBracket : UInt8 := 0x5b
def backslash : UInt8 := 0x5c
def closeBracket : UInt8 := 0x5d
def openBrace : UInt8 := 0x7b
def closeBrace : UInt8 := 0x7d

/-- The byte of an ASCII letter or digit. -/
def letter (character : Char) : UInt8 :=
  UInt8.ofNat character.toNat

/-- The value of a decimal digit. -/
def digit? (byte : UInt8) : Option Nat :=
  if letter '0' ≤ byte && byte ≤ letter '9' then some (byte.toNat - (letter '0').toNat) else none

/-- The value of a hexadecimal digit in either case. -/
def hexDigit? (byte : UInt8) : Option Nat :=
  if letter '0' ≤ byte && byte ≤ letter '9' then some (byte.toNat - (letter '0').toNat)
  else if letter 'a' ≤ byte && byte ≤ letter 'f' then
    some (byte.toNat - (letter 'a').toNat + 10)
  else if letter 'A' ≤ byte && byte ≤ letter 'F' then
    some (byte.toNat - (letter 'A').toNat + 10)
  else none

/-- The hexadecimal digit of a value below sixteen, in lower case. -/
def hexDigit (value : Nat) : UInt8 :=
  if value < 10 then UInt8.ofNat ((letter '0').toNat + value)
  else UInt8.ofNat ((letter 'a').toNat + (value - 10))

/-- The decimal digits of a number. -/
def decimal (number : Nat) : List UInt8 :=
  (Nat.toDigits 10 number).map letter

end Ascii

/-- The bytes of a text in UTF-8. -/
def Text.bytes (text : String) : List UInt8 :=
  text.toUTF8.data.toList

theorem Text.bytes_ofList (characters : List Char) :
    Text.bytes (String.ofList characters) = characters.flatMap String.utf8EncodeChar := by
  simp [Text.bytes, List.utf8Encode]

/-- The text of some bytes, if they are UTF-8. -/
def Text.ofBytes? (bytes : List UInt8) : Option String :=
  String.fromUTF8? ⟨bytes.toArray⟩

theorem Text.ofBytes?_bytes (text : String) : Text.ofBytes? (Text.bytes text) = some text := by
  have valid : (ByteArray.mk text.toByteArray.data).IsValidUTF8 := text.isValidUTF8
  simp [Text.ofBytes?, Text.bytes, String.fromUTF8?, valid, String.fromUTF8]

end WindowRelay
