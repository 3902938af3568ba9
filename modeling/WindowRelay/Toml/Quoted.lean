/-!
Contract: the strings of TOML texts.

Owns:
- basic and literal strings, on one line and on several;
- escapes, trimmed line ends, and quotes next to a closing delimiter.

Every reader takes the text behind the opening delimiter and gives the content and the text
behind the closing one.
-/

namespace WindowRelay

namespace Toml

/-- A space or a tab. -/
def isBlank (character : Char) : Bool :=
  character == ' ' || character == '\t'

/-- The characters that may stand in a string or a comment, line ends and delimiters apart. -/
def isPlain (character : Char) : Bool :=
  character == '\t' || (' ' ≤ character && character != '\x7f')

/-- The character of an escape letter. -/
def escaped? : Char → Option Char
  | 'b' => some '\x08'
  | 't' => some '\t'
  | 'n' => some '\n'
  | 'f' => some '\x0c'
  | 'r' => some '\r'
  | '"' => some '"'
  | '\\' => some '\\'
  | _ => none

/-- The value of a hexadecimal digit. -/
def hexDigit? (character : Char) : Option Nat :=
  if '0' ≤ character && character ≤ '9' then some (character.toNat - '0'.toNat)
  else if 'a' ≤ character && character ≤ 'f' then some (character.toNat - 'a'.toNat + 10)
  else if 'A' ≤ character && character ≤ 'F' then some (character.toNat - 'A'.toNat + 10)
  else none

/-- The character with a hexadecimal number; surrogates are none. -/
def character? (digits : List Char) : Option Char := do
  let values ← digits.mapM hexDigit?
  let number := values.foldl (fun sum digit => sum * 16 + digit) 0
  if number.isValidChar then some (Char.ofNat number) else none

/-- Whether the line ends here, after blanks. -/
def endsLine (text : List Char) : Bool :=
  match text.dropWhile isBlank with
  | '\n' :: _ | '\r' :: '\n' :: _ => true
  | _ => false

/-- The rest of a basic string on one line. `content` is reversed. -/
def basic? (content : List Char) : List Char → Option (String × List Char)
  | '"' :: rest => some (String.ofList content.reverse, rest)
  | '\\' :: 'u' :: a :: b :: c :: d :: rest => do
    basic? ((← character? [a, b, c, d]) :: content) rest
  | '\\' :: 'U' :: a :: b :: c :: d :: e :: f :: g :: h :: rest => do
    basic? ((← character? [a, b, c, d, e, f, g, h]) :: content) rest
  | '\\' :: letter :: rest => do basic? ((← escaped? letter) :: content) rest
  | character :: rest => if isPlain character then basic? (character :: content) rest else none
  | [] => none

/-- The rest of a literal string on one line. -/
def literal? (content : List Char) : List Char → Option (String × List Char)
  | '\'' :: rest => some (String.ofList content.reverse, rest)
  | character :: rest => if isPlain character then literal? (character :: content) rest else none
  | [] => none

/-- The rest of a basic string on several lines. While `trimming`, blanks and line ends behind an
escaped line end are passed over. One or two quotes may stand before the closing delimiter. -/
def basicLines? (trimming : Bool) (content : List Char) : List Char → Option (String × List Char)
  | '"' :: '"' :: '"' :: '"' :: '"' :: rest =>
    some (String.ofList ('"' :: '"' :: content).reverse, rest)
  | '"' :: '"' :: '"' :: '"' :: rest => some (String.ofList ('"' :: content).reverse, rest)
  | '"' :: '"' :: '"' :: rest => some (String.ofList content.reverse, rest)
  | '\r' :: '\n' :: rest =>
    basicLines? trimming (if trimming then content else '\n' :: content) rest
  | '\n' :: rest => basicLines? trimming (if trimming then content else '\n' :: content) rest
  | '\\' :: rest =>
    if endsLine rest then basicLines? true content rest
    else
      match rest with
      | 'u' :: a :: b :: c :: d :: rest => do
        basicLines? false ((← character? [a, b, c, d]) :: content) rest
      | 'U' :: a :: b :: c :: d :: e :: f :: g :: h :: rest => do
        basicLines? false ((← character? [a, b, c, d, e, f, g, h]) :: content) rest
      | letter :: rest => do basicLines? false ((← escaped? letter) :: content) rest
      | [] => none
  | character :: rest =>
    if trimming && isBlank character then basicLines? true content rest
    else if isPlain character then basicLines? false (character :: content) rest
    else none
  | [] => none

/-- The rest of a literal string on several lines. -/
def literalLines? (content : List Char) : List Char → Option (String × List Char)
  | '\'' :: '\'' :: '\'' :: '\'' :: '\'' :: rest =>
    some (String.ofList ('\'' :: '\'' :: content).reverse, rest)
  | '\'' :: '\'' :: '\'' :: '\'' :: rest => some (String.ofList ('\'' :: content).reverse, rest)
  | '\'' :: '\'' :: '\'' :: rest => some (String.ofList content.reverse, rest)
  | '\r' :: '\n' :: rest => literalLines? ('\n' :: content) rest
  | '\n' :: rest => literalLines? ('\n' :: content) rest
  | character :: rest =>
    if isPlain character then literalLines? (character :: content) rest else none
  | [] => none

/-- A line end right behind the delimiter of a string on several lines is dropped. -/
def dropLineEnd : List Char → List Char
  | '\r' :: '\n' :: rest => rest
  | '\n' :: rest => rest
  | text => text

/-- A string on one line, as names may be. -/
def quoted? : List Char → Option (String × List Char)
  | '"' :: rest => basic? [] rest
  | '\'' :: rest => literal? [] rest
  | _ => none

/-- Any string. -/
def string? : List Char → Option (String × List Char)
  | '"' :: '"' :: '"' :: rest => basicLines? false [] (dropLineEnd rest)
  | '\'' :: '\'' :: '\'' :: rest => literalLines? [] (dropLineEnd rest)
  | text => quoted? text

end Toml

end WindowRelay
