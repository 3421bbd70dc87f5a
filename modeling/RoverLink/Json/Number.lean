import RoverLink.Decimal.Binary64
import RoverLink.Decimal.Digits
import RoverLink.Document
import RoverLink.Word

/-!
# Numbers of JSON

An integer without fraction and exponent that fits in 64 bits, with or without sign, is kept
exactly, except that the integer `-0` is the number `-0.0`.  Every other number is computed in two
steps.  Its first digits, as many as a word of 64 bits has room for, are the significand, and the
digits after these count as places only.  Then the significand, as a binary64 number, is multiplied
or divided by a power of ten.  Both steps round, so the result is close to the number that is
written, but need not be the nearest one.  A number whose product is infinite is unreadable.
-/

namespace RoverLink.Json

open Decimal

/-- A number as it is written. -/
structure Numeral where
  negative : Bool
  integral : List Char
  /-- The digits after the point, if there is a point. -/
  fraction : Option (List Char)
  /-- The power of ten, if one is written. -/
  exponent : Option Int
  deriving DecidableEq, Repr

/-! ### Values -/

/-- A significand with as many more digits as 64 bits have room for, and the digits left over. -/
def gather (significand : Nat) : List Char → Nat × List Char
  | [] => (significand, [])
  | digit :: rest =>
    let longer := 10 * significand + (digit.toNat - '0'.toNat)
    if longer < Word.count64 then gather longer rest else (significand, digit :: rest)

/--
The significand of a number and the power of ten that belongs to it.  A digit before the point that
is left over makes the number ten times as large, and a digit after it changes nothing.
-/
def Numeral.scaled (numeral : Numeral) : Nat × Int :=
  let fraction := numeral.fraction.getD []
  let (whole, excess) := gather 0 numeral.integral
  let (significand, ignored) := gather whole fraction
  (significand, numeral.exponent.getD 0 + excess.length - (fraction.length - ignored.length : Nat))

/-- The greatest power of ten that is a finite binary64 number. -/
def greatestPower : Nat :=
  308

/-- The binary64 number nearest to a power of ten. -/
def powerOfTen (power : Nat) : Binary64 :=
  Binary64.ofRatio false (Nat.pow 10 power) 1

/-- A number times a power of ten, unless the power or the product is too large. -/
def magnify? (number : Binary64) (power : Nat) : Option Binary64 :=
  if power ≤ greatestPower then
    let product := number * powerOfTen power
    if product.isFinite then some product else none
  else
    none

/--
A number divided by a power of ten.  A power that is too large is split; as a significand has at
most twenty digits, nothing is left of it after two divisions by the greatest one.
-/
def reduce (number : Binary64) (power : Nat) : Binary64 :=
  if power ≤ greatestPower then
    number / powerOfTen power
  else if power ≤ 2 * greatestPower then
    number / powerOfTen greatestPower / powerOfTen (power - greatestPower)
  else
    .zero number.isNegative

/-- The binary64 number of a numeral, unless it is too large. -/
def Numeral.toBinary64? (numeral : Numeral) : Option Binary64 :=
  let (significand, power) := numeral.scaled
  let number := Binary64.ofRatio numeral.negative significand 1
  if significand = 0 then some number
  else if 0 ≤ power then magnify? number power.toNat
  else some (reduce number (-power).toNat)

/-- The integer that is kept exactly, if a number is one. -/
def Numeral.toInteger? (numeral : Numeral) : Option Int :=
  let magnitude := ofDigits numeral.integral
  if numeral.fraction.isSome ∨ numeral.exponent.isSome then none
  else if numeral.negative then
    if magnitude ≠ 0 ∧ (Word.int64? (-(magnitude : Int))).isSome then some (-(magnitude : Int))
    else none
  else
    if magnitude < Word.count64 then some magnitude else none

def Numeral.toDocument (numeral : Numeral) : Document :=
  match numeral.toInteger? with
  | some integer => .whole integer
  | none =>
    match numeral.toBinary64? with
    | some number => .real number
    | none => .unreadable

/-! ### Texts -/

/-- The digits before the point: a single zero, or digits that do not start with one. -/
def readIntegral : List Char → Option (List Char × List Char)
  | '0' :: rest => some (['0'], rest)
  | text =>
    let digits := text.takeWhile Char.isDigit
    if digits = [] then none else some (digits, text.dropWhile Char.isDigit)

/-- The digits after the point, if there is a point. -/
def readFraction : List Char → Option (Option (List Char) × List Char)
  | '.' :: rest =>
    let digits := rest.takeWhile Char.isDigit
    if digits = [] then none else some (some digits, rest.dropWhile Char.isDigit)
  | text => some (none, text)

def readPower (negative : Bool) (text : List Char) : Option (Option Int × List Char) :=
  let digits := text.takeWhile Char.isDigit
  if digits = [] then
    none
  else
    let magnitude : Int := ofDigits digits
    some (some (if negative then -magnitude else magnitude), text.dropWhile Char.isDigit)

def readExponent : List Char → Option (Option Int × List Char)
  | mark :: rest =>
    if mark = 'e' ∨ mark = 'E' then
      match rest with
      | '+' :: digits => readPower false digits
      | '-' :: digits => readPower true digits
      | digits => readPower false digits
    else
      some (none, mark :: rest)
  | [] => some (none, [])

def readUnsigned (negative : Bool) (text : List Char) : Option (Numeral × List Char) := do
  let (integral, text) ← readIntegral text
  let (fraction, text) ← readFraction text
  let (exponent, text) ← readExponent text
  return (⟨negative, integral, fraction, exponent⟩, text)

/-- A number at the start of a text, and the rest of it. -/
def readNumeral : List Char → Option (Numeral × List Char)
  | '-' :: rest => readUnsigned true rest
  | text => readUnsigned false text

end RoverLink.Json
