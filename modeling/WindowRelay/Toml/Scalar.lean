import WindowRelay.Numeric.Decimal
import WindowRelay.Toml.Basic
import WindowRelay.Toml.Quoted

/-!
Contract: the values of TOML texts that are written without delimiters.

Owns:
- integers in four bases, in the range of 64 bits;
- floats, of which only their validity counts;
- dates and times, of which only their validity counts.

A bare value is one run of the characters that occur in such values; only a date and a time may
be apart by one space.
-/

namespace WindowRelay

namespace Toml

def isDigit (character : Char) : Bool :=
  '0' ≤ character && character ≤ '9'

/-- The characters of bare values. -/
def isBare (character : Char) : Bool :=
  isDigit character || ('a' ≤ character && character ≤ 'z') ||
    ('A' ≤ character && character ≤ 'Z') ||
    character == '_' || character == '+' || character == '-' || character == '.' ||
    character == ':'

/-- Digits with single underscores between them, as their values. -/
def digits? (isOfBase : Char → Bool) : List Char → Option (List Nat)
  | [] => none
  | [digit] => if isOfBase digit then (hexDigit? digit).map ([·]) else none
  | digit :: '_' :: rest => do
    guard (isOfBase digit)
    pure ((← hexDigit? digit) :: (← digits? isOfBase rest))
  | digit :: rest => do
    guard (isOfBase digit)
    pure ((← hexDigit? digit) :: (← digits? isOfBase rest))

def ofDigits (base : Nat) (digits : List Nat) : Nat :=
  digits.foldl (fun number digit => number * base + digit) 0

/-- Split off a sign; `true` is minus. -/
def splitSign : List Char → Bool × List Char
  | '+' :: rest => (false, rest)
  | '-' :: rest => (true, rest)
  | text => (false, text)

/-- A decimal integer without leading zeros. -/
def wholeDigits? (text : List Char) : Option (List Nat) :=
  match text with
  | ['0'] => some [0]
  | '0' :: _ => none
  | _ => digits? isDigit text

/-- An integer in the range of 64 bits. Only decimal ones have a sign. -/
def integer? (text : List Char) : Option Int := do
  let number ←
    match text with
    | '0' :: 'x' :: rest =>
      (digits? (fun digit => (hexDigit? digit).isSome) rest).map fun digits =>
        (ofDigits 16 digits : Int)
    | '0' :: 'o' :: rest =>
      (digits? (fun digit => '0' ≤ digit && digit ≤ '7') rest).map fun digits =>
        (ofDigits 8 digits : Int)
    | '0' :: 'b' :: rest =>
      (digits? (fun digit => digit == '0' || digit == '1') rest).map fun digits =>
        (ofDigits 2 digits : Int)
    | _ =>
      let (negative, rest) := splitSign text
      (wholeDigits? rest).map fun digits =>
        let number : Int := ofDigits 10 digits
        if negative then -number else number
  if Int64.minValue.toInt ≤ number && number ≤ Int64.maxValue.toInt then some number else none

/-- An exponent with its letter, or nothing. -/
def exponent? : List Char → Option Int
  | [] => some 0
  | letter :: rest =>
    if letter == 'e' || letter == 'E' then
      let (negative, digits) := splitSign rest
      (digits? isDigit digits).map fun digits =>
        let number : Int := ofDigits 10 digits
        if negative then -number else number
    else none

def isExponentLetter (character : Char) : Bool :=
  character == 'e' || character == 'E'

/-- Whether a text is a float: a fraction, an exponent, or both behind a whole number, or one of
the special values. A positive number must not be too large for double precision. -/
def isFloat (text : List Char) : Bool :=
  let (negative, rest) := splitSign text
  if rest == ['i', 'n', 'f'] || rest == ['n', 'a', 'n'] then true
  else
    let mantissa := rest.takeWhile fun character => !isExponentLetter character
    let power := rest.dropWhile fun character => !isExponentLetter character
    let whole := mantissa.takeWhile fun character => character != '.'
    let fraction : Option (List Nat) :=
      match mantissa.dropWhile fun character => character != '.' with
      | [] => if power.isEmpty then none else some []
      | _ :: places => digits? isDigit places
    match wholeDigits? whole, fraction, exponent? power with
    | some whole, some fraction, some exponent =>
      let decimal : Decimal :=
        ⟨negative, ofDigits 10 (whole ++ fraction), exponent - fraction.length⟩
      negative || decimal.nearestBinary64?.isSome
    | _, _, _ => false

/-- A number of exactly two digits. -/
def twoDigits? : List Char → Option Nat
  | [tens, units] =>
    if isDigit tens && isDigit units then
      some ((tens.toNat - '0'.toNat) * 10 + (units.toNat - '0'.toNat))
    else none
  | _ => none

def daysInMonth (year month : Nat) : Nat :=
  if month = 2 then
    if year % 4 = 0 && (year % 100 != 0 || year % 400 = 0) then 29 else 28
  else if month = 4 || month = 6 || month = 9 || month = 11 then 30
  else 31

def isDate : List Char → Bool
  | [a, b, c, d, '-', e, f, '-', g, h] =>
    match twoDigits? [a, b], twoDigits? [c, d], twoDigits? [e, f], twoDigits? [g, h] with
    | some century, some year, some month, some day =>
      1 ≤ month && month ≤ 12 && 1 ≤ day && day ≤ daysInMonth (century * 100 + year) month
    | _, _, _, _ => false
  | _ => false

/-- Hours and minutes. -/
def isHourMinute : List Char → Bool
  | [a, b, ':', c, d] =>
    match twoDigits? [a, b], twoDigits? [c, d] with
    | some hour, some minute => hour ≤ 23 && minute ≤ 59
    | _, _ => false
  | _ => false

/-- What may stand behind the seconds: a fraction. -/
def isSecondFraction : List Char → Bool
  | [] => true
  | '.' :: places => !places.isEmpty && places.all isDigit
  | _ => false

/-- A time of day; the second sixty is a leap second. -/
def isTime (text : List Char) : Bool :=
  match text.drop 5 with
  | ':' :: c :: d :: rest =>
    isHourMinute (text.take 5) &&
      (match twoDigits? [c, d] with
        | some second => second ≤ 60
        | none => false) &&
      isSecondFraction rest
  | _ => false

/-- A distance from universal time, or none. -/
def isOffset : List Char → Bool
  | [] | ['Z'] | ['z'] => true
  | sign :: rest => (sign == '+' || sign == '-') && isHourMinute rest

/-- Whether a character begins a distance from universal time. -/
def beginsOffset (character : Char) : Bool :=
  character == 'Z' || character == 'z' || character == '+' || character == '-'

/-- A time of day that goes with a date. -/
def isTimeWithOffset (text : List Char) : Bool :=
  isTime (text.takeWhile fun character => !beginsOffset character) &&
    isOffset (text.dropWhile fun character => !beginsOffset character)

/-- A date with a time behind the letter `T`. -/
def isDateTime (text : List Char) : Bool :=
  isDate (text.take 10) &&
    match text.drop 10 with
    | letter :: time => (letter == 'T' || letter == 't') && isTimeWithOffset time
    | [] => false

/-- A bare value and the text behind it. -/
def bare? (text : List Char) : Option (Value × List Char) :=
  let token := text.takeWhile isBare
  let rest := text.dropWhile isBare
  if token == ['t', 'r', 'u', 'e'] then some (.boolean true, rest)
  else if token == ['f', 'a', 'l', 's', 'e'] then some (.boolean false, rest)
  else if isDate token then
    match rest with
    | ' ' :: later =>
      if isTimeWithOffset (later.takeWhile isBare) then
        some (.dateTime, later.dropWhile isBare)
      else some (.dateTime, rest)
    | _ => some (.dateTime, rest)
  else if isDateTime token || isTime token then some (.dateTime, rest)
  else
    match integer? token with
    | some number => some (.integer number, rest)
    | none => if isFloat token then some (.float, rest) else none

end Toml

end WindowRelay
