/-!
Contract: window ids as the native window manager assigns them.

Owns:
- the id type, the reserved ids and the text of an id.
-/

namespace WindowRelay

/-- A window handle: an unsigned 32-bit number. -/
abbrev WindowId := UInt32

namespace WindowId

/-- Stands for "no window" and "no parent". -/
def absent : WindowId := 0

/-- The message-only window, which is never shown. -/
def messageOnly : WindowId := 0xfffffffd

/-- The digit of a value below sixteen, in lower case. -/
def hexDigit (value : Nat) : Char :=
  if value < 10 then Char.ofNat (48 + value) else Char.ofNat (87 + value)

/-- The last `places` hexadecimal digits of a number, most significant first. -/
def hexDigits : Nat → Nat → List Char
  | 0, _ => []
  | places + 1, value => hexDigits places (value / 16) ++ [hexDigit (value % 16)]

/-- Ids are written as eight lower-case hexadecimal digits. -/
def text (id : WindowId) : String :=
  String.ofList (hexDigits 8 id.toNat)

end WindowId

end WindowRelay
