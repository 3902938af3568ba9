import WindowRelay.Toml.Scalar

/-!
Contract: reading TOML texts.

Owns:
- blanks, line ends and comments; keys; values with arrays and inline tables inside each other;
- the lines of a document and the tables that they make.

Values nest less than eighty deep, and a key has fewer than eighty parts.
-/

namespace WindowRelay

namespace Toml

/-- The nesting and the parts of a key stay below this number. -/
def nestingLimit : Nat := 80

def dropBlanks (text : List Char) : List Char :=
  text.dropWhile isBlank

/-- Pass over blanks, line ends and comments, as far as they are well formed. -/
def dropSpace (inComment : Bool) : List Char → List Char
  | '\r' :: '\n' :: rest => dropSpace false rest
  | '\n' :: rest => dropSpace false rest
  | character :: rest =>
    if inComment then
      if isPlain character then dropSpace true rest else character :: rest
    else if isBlank character then dropSpace false rest
    else if character == '#' then dropSpace true rest
    else character :: rest
  | [] => []

/-- The text behind a line end or at the end of the document. -/
def lineEnd? : List Char → Option (List Char)
  | '\r' :: '\n' :: rest => some rest
  | '\n' :: rest => some rest
  | [] => some []
  | _ => none

/-- The text behind the rest of a line, in which only a comment may stand. -/
def endLine? (text : List Char) : Option (List Char) :=
  match dropBlanks text with
  | '#' :: rest => lineEnd? (rest.dropWhile isPlain)
  | rest => lineEnd? rest

/-! ## Keys -/

/-- The characters of names without quotes. -/
def isNameCharacter (character : Char) : Bool :=
  isDigit character || ('a' ≤ character && character ≤ 'z') ||
    ('A' ≤ character && character ≤ 'Z') || character == '_' || character == '-'

def name? (text : List Char) : Option (String × List Char) :=
  match text with
  | '"' :: _ | '\'' :: _ => quoted? text
  | _ =>
    let name := text.takeWhile isNameCharacter
    if name.isEmpty then none else some (String.ofList name, text.dropWhile isNameCharacter)

/-- The parts of a key with dots between them; every part takes a unit of `fuel`. -/
def parts? : Nat → List Char → Option (List String × List Char)
  | 0, _ => none
  | fuel + 1, text => do
    let (name, rest) ← name? (dropBlanks text)
    match dropBlanks rest with
    | '.' :: more => do
      let (names, rest) ← parts? fuel more
      pure (name :: names, rest)
    | rest => pure ([name], rest)

/-- A key: the path of the table that it is about, the name in this table, and the text behind. -/
structure Key where
  path : List String
  name : String
  rest : List Char

def Key.names (key : Key) : List String :=
  key.path ++ [key.name]

def key? (text : List Char) : Option Key := do
  let (names, rest) ← parts? (nestingLimit - 1) text
  pure { path := names.dropLast, name := ← names.getLast?, rest }

/-! ## Values -/

mutual

/-- A value, with `room` for containers inside each other. Every step takes a unit of `fuel`. -/
def valueWith? (fuel room : Nat) (text : List Char) : Option (Value × List Char) :=
  match fuel with
  | 0 => none
  | fuel + 1 =>
    match text with
    | '"' :: _ | '\'' :: _ => (string? text).map fun (content, rest) => (.string content, rest)
    | '[' :: rest =>
      match room with
      | 0 => none
      | room + 1 =>
        (items? fuel room (dropSpace false rest)).map fun (items, rest) => (.array items, rest)
    | '{' :: rest =>
      match room with
      | 0 => none
      | room + 1 =>
        match dropBlanks rest with
        | '}' :: rest => some (.table .inline [], rest)
        | rest =>
          (pairs? fuel room [] rest).map fun (members, rest) =>
            (.table .inline members, rest)
    | _ => bare? text

/-- The items of an array up to its end; a comma may stand behind the last one. -/
def items? (fuel room : Nat) (text : List Char) : Option (List Value × List Char) :=
  match fuel with
  | 0 => none
  | fuel + 1 =>
    match text with
    | ']' :: rest => some ([], rest)
    | _ => do
      let (item, rest) ← valueWith? fuel room text
      match dropSpace false rest with
      | ',' :: rest =>
        (items? fuel room (dropSpace false rest)).map fun (items, rest) => (item :: items, rest)
      | ']' :: rest => some ([item], rest)
      | _ => none

/-- The members of an inline table up to its end. -/
def pairs? (fuel room : Nat) (members : Members) (text : List Char) :
    Option (Members × List Char) :=
  match fuel with
  | 0 => none
  | fuel + 1 => do
    let key ← key? text
    match key.rest with
    | '=' :: rest => do
      let (value, rest) ← valueWith? fuel room (dropBlanks rest)
      let members ← members.set .inline key.path key.name value
      match dropBlanks rest with
      | ',' :: rest => pairs? fuel room members rest
      | '}' :: rest => some (members, rest)
      | _ => none
    | _ => none

end

/-- A value and the text behind it. A step takes at least every other character. -/
def value? (text : List Char) : Option (Value × List Char) :=
  valueWith? (2 * text.length + 2) (nestingLimit - 1) text

/-! ## Documents -/

/-- A document so far: its tables, and the header under which lines stand. -/
structure Document where
  members : Members := []
  header : List String := []

namespace Document

/-- Set a key in the table of the header. -/
def set (document : Document) (key : Key) (value : Value) : Option Document := do
  let members ←
    Members.within false
      (fun origin inner => Members.set origin inner key.path key.name value)
      document.header .defined document.members
  pure { document with members }

/-- One line that is not empty, with the text behind it. -/
def line? (document : Document) (text : List Char) : Option (Document × List Char) := do
  match text with
  | '[' :: '[' :: rest =>
    let key ← key? rest
    match key.rest with
    | ']' :: ']' :: rest =>
      let members ← document.members.append key.path key.name
      pure ({ members, header := key.names }, ← endLine? rest)
    | _ => none
  | '[' :: rest =>
    let key ← key? rest
    match key.rest with
    | ']' :: rest =>
      let members ← document.members.define key.path key.name
      pure ({ members, header := key.names }, ← endLine? rest)
    | _ => none
  | _ =>
    let key ← key? text
    match key.rest with
    | '=' :: rest =>
      let (value, rest) ← value? (dropBlanks rest)
      pure (← document.set key value, ← endLine? rest)
    | _ => none

/-- The lines of a document. Every line takes a unit of `fuel`. -/
def lines? : Nat → Document → List Char → Option Document
  | 0, _, _ => none
  | fuel + 1, document, text =>
    match dropBlanks text with
    | [] => some document
    | '#' :: rest => do lines? fuel document (← lineEnd? (rest.dropWhile isPlain))
    | '\n' :: rest => lines? fuel document rest
    | '\r' :: '\n' :: rest => lines? fuel document rest
    | text => do
      let (document, rest) ← document.line? text
      lines? fuel document rest

end Document

/-- The members of a document. A byte order mark in front of it is passed over. -/
def ofText? (text : String) : Option Members :=
  let characters :=
    match text.toList with
    | '\ufeff' :: rest => rest
    | characters => characters
  (Document.lines? (characters.length + 1) {} characters).map Document.members

end Toml

end WindowRelay
