/-!
Contract: text of bytes that may not be UTF-8.

Owns:
- decoding with one replacement character for every longest piece that begins no character.
-/

namespace WindowRelay

namespace Text

/-- A character of which some bytes are still missing: its value so far, their number, and the
range of the next one. -/
structure Unfinished where
  value : Nat
  missing : Nat
  least : UInt8 := 0x80
  most : UInt8 := 0xbf
deriving DecidableEq, Repr

/-- Text so far, its last character first, and the character that is not complete yet. -/
structure Decoding where
  reversed : List Char := []
  unfinished : Option Unfinished := none
deriving DecidableEq, Repr

namespace Decoding

def replacement : Char := '\ufffd'

/-- Take the first byte of a character. -/
def first (reversed : List Char) (byte : UInt8) : Decoding :=
  if byte < 0x80 then ⟨Char.ofNat byte.toNat :: reversed, none⟩
  else if 0xc2 ≤ byte && byte ≤ 0xdf then
    ⟨reversed, some { value := byte.toNat % 32, missing := 1 }⟩
  else if 0xe0 ≤ byte && byte ≤ 0xef then
    let least := if byte = 0xe0 then 0xa0 else 0x80
    let most := if byte = 0xed then 0x9f else 0xbf
    ⟨reversed, some { value := byte.toNat % 16, missing := 2, least, most }⟩
  else if 0xf0 ≤ byte && byte ≤ 0xf4 then
    let least := if byte = 0xf0 then 0x90 else 0x80
    let most := if byte = 0xf4 then 0x8f else 0xbf
    ⟨reversed, some { value := byte.toNat % 8, missing := 3, least, most }⟩
  else ⟨replacement :: reversed, none⟩

/-- Take a byte. -/
def push (decoding : Decoding) (byte : UInt8) : Decoding :=
  match decoding.unfinished with
  | none => first decoding.reversed byte
  | some unfinished =>
    if unfinished.least ≤ byte && byte ≤ unfinished.most then
      let value := unfinished.value * 64 + byte.toNat % 64
      if unfinished.missing ≤ 1 then ⟨Char.ofNat value :: decoding.reversed, none⟩
      else ⟨decoding.reversed, some { value, missing := unfinished.missing - 1 }⟩
    else first (replacement :: decoding.reversed) byte

/-- The text when no more bytes come. -/
def text (decoding : Decoding) : String :=
  let reversed :=
    if decoding.unfinished.isSome then replacement :: decoding.reversed else decoding.reversed
  String.ofList reversed.reverse

end Decoding

/-- The text of some bytes. -/
def ofBytesLossy (bytes : List UInt8) : String :=
  (bytes.foldl Decoding.push {}).text

end Text

end WindowRelay
