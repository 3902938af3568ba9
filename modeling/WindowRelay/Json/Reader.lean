import WindowRelay.Json.Basic

/-!
Contract: reading JSON texts, given as bytes.

Owns:
- a machine that takes one byte at a time: what it is inside of, and the containers around that;
- strings: escapes, surrogate pairs and the check that the content is Unicode;
- `Json.ofBytes?`, which reads a whole text.

Every byte is taken once, so the machine is total by recursion on the text, and containers may
nest to any depth.
-/

namespace WindowRelay

namespace Json

/-! ## Strings -/

/-- The content of a string so far, its last byte first. -/
inductive Content where
  | bytes (reversed : List UInt8)
  /-- a leading surrogate waits for its partner -/
  | awaiting (reversed : List UInt8) (leading : Nat)
  /-- the content cannot become Unicode any more -/
  | broken
deriving DecidableEq, Repr

namespace Content

def push (byte : UInt8) : Content → Content
  | bytes reversed => bytes (byte :: reversed)
  | awaiting _ _ | broken => broken

/-- Append a code unit of UTF-16. -/
def pushUnit (value : Nat) : Content → Content
  | bytes reversed =>
    if value < 0xd800 || 0xdfff < value then
      bytes ((String.utf8EncodeChar (Char.ofNat value)).reverse ++ reversed)
    else if value < 0xdc00 then awaiting reversed value
    else broken
  | awaiting reversed leading =>
    if 0xdc00 ≤ value && value ≤ 0xdfff then
      let character := 0x10000 + (leading - 0xd800) * 0x400 + (value - 0xdc00)
      bytes ((String.utf8EncodeChar (Char.ofNat character)).reverse ++ reversed)
    else broken
  | broken => broken

def text? : Content → Option String
  | bytes reversed => Text.ofBytes? reversed.reverse
  | awaiting _ _ | broken => none

end Content

/-- The byte that an escape letter other than `u` stands for. -/
def escaped? (byte : UInt8) : Option UInt8 :=
  if byte = Ascii.quote || byte = Ascii.backslash || byte = Ascii.slash then some byte
  else if byte = Ascii.letter 'b' then some 0x08
  else if byte = Ascii.letter 'f' then some 0x0c
  else if byte = Ascii.letter 'n' then some Ascii.lineFeed
  else if byte = Ascii.letter 'r' then some Ascii.carriageReturn
  else if byte = Ascii.letter 't' then some Ascii.tab
  else none

/-! ## Numbers -/

/-- Where in a number the reader is. `places` counts the digits of the fraction. -/
inductive NumberScan where
  | sign
  | zero (negative : Bool)
  | whole (negative : Bool) (magnitude : Nat)
  | point (negative : Bool) (magnitude : Nat)
  | fraction (negative : Bool) (significand places : Nat)
  | mark (negative : Bool) (significand places : Nat)
  | exponentSign (negative : Bool) (significand places : Nat) (down : Bool)
  | exponent (negative : Bool) (significand places : Nat) (down : Bool) (magnitude : Nat)
deriving DecidableEq, Repr

namespace NumberScan

/-- The first digit of a number. -/
def first (negative : Bool) (digit : Nat) : NumberScan :=
  if digit = 0 then zero negative else whole negative digit

def isMark (byte : UInt8) : Bool :=
  byte = Ascii.letter 'e' || byte = Ascii.letter 'E'

/-- The number with one more byte, or `none` if the byte does not belong to it. -/
def push? (byte : UInt8) : NumberScan → Option NumberScan
  | sign => (Ascii.digit? byte).map (first true)
  | zero negative =>
    if byte = Ascii.point then some (point negative 0)
    else if isMark byte then some (mark negative 0 0)
    else none
  | whole negative magnitude =>
    match Ascii.digit? byte with
    | some digit => some (whole negative (magnitude * 10 + digit))
    | none =>
      if byte = Ascii.point then some (point negative magnitude)
      else if isMark byte then some (mark negative magnitude 0)
      else none
  | point negative magnitude =>
    (Ascii.digit? byte).map fun digit => fraction negative (magnitude * 10 + digit) 1
  | fraction negative significand places =>
    match Ascii.digit? byte with
    | some digit => some (fraction negative (significand * 10 + digit) (places + 1))
    | none => if isMark byte then some (mark negative significand places) else none
  | mark negative significand places =>
    if byte = Ascii.plus then some (exponentSign negative significand places false)
    else if byte = Ascii.minus then some (exponentSign negative significand places true)
    else (Ascii.digit? byte).map (exponent negative significand places false)
  | exponentSign negative significand places down =>
    (Ascii.digit? byte).map (exponent negative significand places down)
  | exponent negative significand places down magnitude =>
    (Ascii.digit? byte).map fun digit =>
      exponent negative significand places down (magnitude * 10 + digit)

/-- The number if it may end here. -/
def number? : NumberScan → Option Number
  | zero negative => some (.whole negative 0)
  | whole negative magnitude => some (.whole negative magnitude)
  | fraction negative significand places => some (.decimal ⟨negative, significand, -places⟩)
  | exponent negative significand places down magnitude =>
    let power : Int := if down then -magnitude else magnitude
    some (.decimal ⟨negative, significand, power - places⟩)
  | sign | point _ _ | mark _ _ _ | exponentSign _ _ _ _ => none

end NumberScan

/-! ## The machine -/

/-- A container that is still open; its items or members so far, the last one first. The members
are gone once a name was not Unicode. -/
inductive Frame where
  | items (before : List Json)
  | members (before : Option (List (String × Json))) (name : Option String)
deriving Repr

/-- What the reader is inside of. In a string, `isName` tells a name from a value. -/
inductive Scan where
  /-- a value must follow -/
  | value
  /-- the first item or the end of an array must follow -/
  | itemOrClose
  /-- the first name or the end of an object must follow -/
  | nameOrClose
  /-- a name must follow -/
  | name
  /-- the colon behind a name must follow -/
  | colon
  /-- a value is complete -/
  | complete (value : Json)
  /-- the rest of a word must follow -/
  | word (rest : List UInt8) (value : Json)
  | string (isName : Bool) (content : Content)
  | escape (isName : Bool) (content : Content)
  | unit (isName : Bool) (content : Content) (missing : Nat) (value : Nat)
  | number (scan : NumberScan)
deriving Repr

/-- The machine: what it is inside of, and the open containers around that, innermost first. -/
structure Machine where
  scan : Scan
  frames : List Frame := []
deriving Repr

namespace Machine

def isBlank (byte : UInt8) : Bool :=
  byte = Ascii.space || byte = Ascii.tab || byte = Ascii.lineFeed || byte = Ascii.carriageReturn

/-- The first byte of a value. -/
def beginValue? (byte : UInt8) (frames : List Frame) : Option Machine :=
  if byte = Ascii.quote then some ⟨.string false (.bytes []), frames⟩
  else if byte = Ascii.openBracket then some ⟨.itemOrClose, .items [] :: frames⟩
  else if byte = Ascii.openBrace then some ⟨.nameOrClose, .members (some []) none :: frames⟩
  else if byte = Ascii.minus then some ⟨.number .sign, frames⟩
  else if byte = Ascii.letter 'n' then some ⟨.word (Text.bytes "ull") .null, frames⟩
  else if byte = Ascii.letter 't' then some ⟨.word (Text.bytes "rue") (.bool true), frames⟩
  else if byte = Ascii.letter 'f' then some ⟨.word (Text.bytes "alse") (.bool false), frames⟩
  else (Ascii.digit? byte).map fun digit => ⟨.number (.first false digit), frames⟩

/-- Members with one more; nothing is left once a name was not Unicode. -/
def withMember (before : Option (List (String × Json))) (name : Option String) (value : Json) :
    Option (List (String × Json)) :=
  before.bind fun members => name.map fun name => (name, value) :: members

/-- The object of some members, the last one first. -/
def closeObject : Option (List (String × Json)) → Json
  | some members => .object members.reverse
  | none => .unreadable

/-- The byte behind a complete value. -/
def afterValue? (value : Json) (byte : UInt8) (frames : List Frame) : Option Machine :=
  if isBlank byte then some ⟨.complete value, frames⟩
  else
    match frames with
    | [] => none
    | .items before :: outer =>
      if byte = Ascii.comma then some ⟨.value, .items (value :: before) :: outer⟩
      else if byte = Ascii.closeBracket then
        some ⟨.complete (.array (value :: before).reverse), outer⟩
      else none
    | .members before name :: outer =>
      if byte = Ascii.comma then
        some ⟨.name, .members (withMember before name value) none :: outer⟩
      else if byte = Ascii.closeBrace then
        some ⟨.complete (closeObject (withMember before name value)), outer⟩
      else none

/-- The end of a string: a name goes to the object around it. -/
def endString (isName : Bool) (content : Content) (frames : List Frame) : Machine :=
  if isName then
    match frames with
    | .members before _ :: outer => ⟨.colon, .members before content.text? :: outer⟩
    | _ => ⟨.colon, frames⟩
  else
    match content.text? with
    | some text => ⟨.complete (.string text), frames⟩
    | none => ⟨.complete .unreadable, frames⟩

/-- The byte that may begin a name. -/
def beginName? (byte : UInt8) (frames : List Frame) : Option Machine :=
  if byte = Ascii.quote then some ⟨.string true (.bytes []), frames⟩ else none

/-- Take one byte; `none` if it cannot stand there. -/
def step? (machine : Machine) (byte : UInt8) : Option Machine :=
  let frames := machine.frames
  match machine.scan with
  | .value => if isBlank byte then some machine else beginValue? byte frames
  | .itemOrClose =>
    if isBlank byte then some machine
    else if byte = Ascii.closeBracket then some ⟨.complete (.array []), frames.tail⟩
    else beginValue? byte frames
  | .nameOrClose =>
    if isBlank byte then some machine
    else if byte = Ascii.closeBrace then some ⟨.complete (.object []), frames.tail⟩
    else beginName? byte frames
  | .name => if isBlank byte then some machine else beginName? byte frames
  | .colon =>
    if isBlank byte then some machine
    else if byte = Ascii.colon then some ⟨.value, frames⟩
    else none
  | .complete value => afterValue? value byte frames
  | .word rest value =>
    match rest with
    | [] => afterValue? value byte frames
    | expected :: later => if byte = expected then some ⟨.word later value, frames⟩ else none
  | .string isName content =>
    if byte = Ascii.quote then some (endString isName content frames)
    else if byte = Ascii.backslash then some ⟨.escape isName content, frames⟩
    else if byte < Ascii.space then none
    else some ⟨.string isName (content.push byte), frames⟩
  | .escape isName content =>
    if byte = Ascii.letter 'u' then some ⟨.unit isName content 4 0, frames⟩
    else (escaped? byte).map fun plain => ⟨.string isName (content.push plain), frames⟩
  | .unit isName content missing value =>
    (Ascii.hexDigit? byte).map fun digit =>
      let value := value * 16 + digit
      if missing ≤ 1 then ⟨.string isName (content.pushUnit value), frames⟩
      else ⟨.unit isName content (missing - 1) value, frames⟩
  | .number scan =>
    match scan.push? byte with
    | some next => some ⟨.number next, frames⟩
    | none => scan.number?.bind fun number => afterValue? (.number number) byte frames

/-- Take some bytes. -/
def run? (machine : Machine) : List UInt8 → Option Machine
  | [] => some machine
  | byte :: rest =>
    match machine.step? byte with
    | some next => next.run? rest
    | none => none

/-- The value, if the text may end here. -/
def value? (machine : Machine) : Option Json :=
  match machine.frames, machine.scan with
  | [], .complete value => some value
  | [], .word [] value => some value
  | [], .number scan => scan.number?.map Json.number
  | _, _ => none

end Machine

/-- The value of a text, which is one value with blanks around it. -/
def ofBytes? (text : List UInt8) : Option Json :=
  (Machine.run? ⟨.value, []⟩ text).bind Machine.value?

end Json

end WindowRelay
