/-!
Contract: the characters with the Unicode property White_Space.

Owns:
- the table of these characters, and blank texts.
-/

namespace WindowRelay

namespace Text

/-- The characters with the property White_Space, as ranges of code points. -/
def whiteSpaceRanges : List (Nat × Nat) :=
  [(0x09, 0x0d), (0x20, 0x20), (0x85, 0x85), (0xa0, 0xa0), (0x1680, 0x1680), (0x2000, 0x200a),
    (0x2028, 0x2029), (0x202f, 0x202f), (0x205f, 0x205f), (0x3000, 0x3000)]

def isWhiteSpace (character : Char) : Bool :=
  whiteSpaceRanges.any fun range => range.1 ≤ character.toNat && character.toNat ≤ range.2

/-- A text that holds nothing but white space. -/
def isBlank (text : String) : Bool :=
  text.toList.all isWhiteSpace

end Text

end WindowRelay
