import RoverLink.Decimal.Written
import RoverLink.Document

/-!
# Unquoted scalars in TOML

Truth values, integers, numbers, dates and times are written without quotes, so a maximal run of
letters, digits and the marks `+ - . : _` is one scalar.  An underscore may separate two digits.  An
integer is decimal with an optional sign and no leading zero, or starts with `0x`, `0o` or `0b`, and
fits in 64 bits.  Dates and times are checked and kept as unreadable documents, since no setting is
one.
-/

namespace RoverLink.Toml

open Decimal

/-- Whether a character belongs to an unquoted scalar. -/
def isScalarChar (character : Char) : Bool :=
  character.isAlphanum || character == '+' || character == '-' || character == '.' ||
    character == ':' || character == '_'

/-- The digits of a run in which single underscores may stand between two digits. -/
def grouped? (isMember : Char → Bool) : List Char → Option (List Char)
  | [] => none
  | [digit] => if isMember digit then some [digit] else none
  | digit :: '_' :: rest =>
    if isMember digit then (grouped? isMember rest).map (digit :: ·) else none
  | digit :: rest =>
    if isMember digit then (grouped? isMember rest).map (digit :: ·) else none

/-- The digits of a decimal integer without sign: grouped, and a zero only alone at the start. -/
def unsigned? (text : List Char) : Option (List Char) :=
  match grouped? Char.isDigit text with
  | some ('0' :: next :: rest) => if next :: rest = [] then some ['0'] else none
  | found => found

/-- A text after an optional sign, and whether the sign is a minus. -/
def splitSign : List Char → Bool × List Char
  | '+' :: rest => (false, rest)
  | '-' :: rest => (true, rest)
  | text => (false, text)

/-- The value of a digit in a base up to sixteen. -/
def digitIn? (base : Nat) (character : Char) : Option Nat :=
  let value :=
    if character.isDigit then some (character.toNat - 48)
    else if 'a' ≤ character ∧ character ≤ 'f' then some (character.toNat - 87)
    else if 'A' ≤ character ∧ character ≤ 'F' then some (character.toNat - 55)
    else none
  value.bind fun value => if value < base then some value else none

/-- The number that grouped digits of a base stand for. -/
def inBase? (base : Nat) (text : List Char) : Option Nat := do
  let found ← grouped? (fun character => (digitIn? base character).isSome) text
  let values ← found.mapM (digitIn? base)
  return values.foldl (fun sofar value => sofar * base + value) 0

/-- A document for an integer that fits in 64 bits with sign. -/
def wholeDocument? (value : Int) : Option Document :=
  (Word.int64? value).map fun _ => .whole value

def integer? (text : List Char) : Option Document :=
  match text with
  | '0' :: 'x' :: digits => (inBase? 16 digits).bind fun value => wholeDocument? value
  | '0' :: 'o' :: digits => (inBase? 8 digits).bind fun value => wholeDocument? value
  | '0' :: 'b' :: digits => (inBase? 2 digits).bind fun value => wholeDocument? value
  | _ =>
    let (negative, body) := splitSign text
    (unsigned? body).bind fun digits =>
      let magnitude : Int := ofDigits digits
      wholeDocument? (if negative then -magnitude else magnitude)

def power? (text : List Char) : Option Int :=
  let (negative, body) := splitSign text
  (grouped? Char.isDigit body).map fun digits =>
    if negative then -(ofDigits digits : Int) else ofDigits digits

/-- A number with a fraction or an exponent; a positive number must not become infinite. -/
def number? (text : List Char) : Option Document := do
  let (negative, body) := splitSign text
  let isMark := fun character : Char => character == 'e' || character == 'E'
  let mantissa := body.takeWhile fun character => !isMark character
  let afterMark := body.dropWhile fun character => !isMark character
  let exponent ← match afterMark with
    | [] => some none
    | _ :: rest => (power? rest).map some
  let whole ← unsigned? (mantissa.takeWhile (· != '.'))
  let fraction ← match mantissa.dropWhile (· != '.') with
    | [] => some none
    | _ :: rest => (grouped? Char.isDigit rest).map some
  if exponent = none ∧ fraction = none then
    none
  else
    let places := fraction.getD []
    let number :=
      Binary64.ofDecimal negative (ofDigits (whole ++ places)) (exponent.getD 0 - places.length)
    if number = Binary64.infinity false then none else some (.real number)

/-- A word for a truth value, an infinity or what is not a number. -/
def word? (text : List Char) : Option Document :=
  match String.ofList text with
  | "true" => some (.flag true)
  | "false" => some (.flag false)
  | "inf" | "+inf" => some (.real (Binary64.infinity false))
  | "-inf" => some (.real (Binary64.infinity true))
  | "nan" | "+nan" | "-nan" => some (.real Binary64.notANumber)
  | _ => none

/-! ### Dates and times -/

/-- Two digits between bounds, and what follows. -/
def twoDigits? (low high : Nat) : List Char → Option (Nat × List Char)
  | first :: second :: rest =>
    let value := ofDigits [first, second]
    if first.isDigit ∧ second.isDigit ∧ low ≤ value ∧ value ≤ high then some (value, rest) else none
  | _ => none

def daysOf (year month : Nat) : Nat :=
  if month = 2 then
    if year % 4 = 0 ∧ (year % 100 ≠ 0 ∨ year % 400 = 0) then 29 else 28
  else if month = 4 ∨ month = 6 ∨ month = 9 ∨ month = 11 then
    30
  else
    31

def afterDate? (text : List Char) : Option (List Char) := do
  let year := text.take 4
  if year.length = 4 ∧ year.all Char.isDigit then
    match text.drop 4 with
    | '-' :: rest =>
      let (month, rest) ← twoDigits? 1 12 rest
      match rest with
      | '-' :: rest =>
        let (_, rest) ← twoDigits? 1 (daysOf (ofDigits year) month) rest
        return rest
      | _ => none
    | _ => none
  else
    none

def afterTime? (text : List Char) : Option (List Char) := do
  let (_, rest) ← twoDigits? 0 23 text
  match rest with
  | ':' :: rest =>
    let (_, rest) ← twoDigits? 0 59 rest
    match rest with
    | ':' :: rest =>
      let (_, rest) ← twoDigits? 0 60 rest
      match rest with
      | '.' :: rest =>
        if (rest.takeWhile Char.isDigit) = [] then none else some (rest.dropWhile Char.isDigit)
      | _ => some rest
    | _ => none
  | _ => none

/-- Whether a text is the distance of a time from universal time. -/
def isOffset : List Char → Bool
  | ['Z'] | ['z'] => true
  | mark :: rest =>
    (mark == '+' || mark == '-') &&
      (match twoDigits? 0 23 rest with
        | some (_, ':' :: minutes) => (twoDigits? 0 59 minutes).any fun found => found.2.isEmpty
        | _ => false)
  | [] => false

/-- Whether a text is a time of the day, with or without an offset. -/
def isTime (zoned : Bool) (text : List Char) : Bool :=
  match afterTime? text with
  | some [] => true
  | some rest => zoned && isOffset rest
  | none => false

/-- Whether a text is a date, a time, or both with `T` between them. -/
def isMoment (text : List Char) : Bool :=
  match afterDate? text with
  | some [] => true
  | some (mark :: rest) => (mark == 'T' || mark == 't') && isTime true rest
  | none => isTime false text

def isDate (text : List Char) : Bool :=
  afterDate? text = some []

def scalar? (text : List Char) : Option Document :=
  if isMoment text then
    some .unreadable
  else
    match word? text with
    | some document => some document
    | none =>
      match number? text with
      | some document => some document
      | none => integer? text

/--
An unquoted scalar at the start of a text, and what follows.  A date may be followed by a blank and
a time.
-/
def readScalar (text : List Char) : Option (Document × List Char) :=
  let scalar := text.takeWhile isScalarChar
  let rest := text.dropWhile isScalarChar
  let time :=
    match rest with
    | ' ' :: after => after.takeWhile isScalarChar
    | _ => []
  if isDate scalar ∧ isTime true time then
    some (.unreadable, rest.drop (time.length + 1))
  else
    (scalar? scalar).map fun document => (document, rest)

end RoverLink.Toml
