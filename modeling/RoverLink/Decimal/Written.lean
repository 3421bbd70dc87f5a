import RoverLink.Decimal.Digits
import RoverLink.Decimal.Shortest

/-!
# Numbers as text

The three ways in which a binary64 number is written.  All of them use the digits of its shortest
decimal and differ in where the exponent is written, in the words for what is not finite, and in
which of two equally near decimals they take:

* `plain` never writes an exponent, writes no point after a whole number, and takes the greater
  decimal;
* `scientific?` writes an exponent outside of the range from `10^(-5)` to `10^16`, marks a whole
  number by `.0`, and takes the decimal whose last digit is even;
* `pointed` is `plain` with `.0` after a whole number.

`ofText?` reads a number in any of these forms.
-/

namespace RoverLink.Decimal.Binary64

def withSign (negative : Bool) (text : List Char) : List Char :=
  if negative then '-' :: text else text

/-- A decimal without an exponent; `whole` follows the digits of a whole number. -/
def positional (decimal : Numeral) (whole : List Char) : List Char :=
  let body := digits decimal.significand
  if 0 ≤ decimal.exponent then
    body ++ zeros (if decimal.significand = 0 then 0 else decimal.exponent.toNat) ++ whole
  else
    let places := (-decimal.exponent).toNat
    if places < body.length then
      body.take (body.length - places) ++ '.' :: body.drop (body.length - places)
    else
      ['0', '.'] ++ zeros (places - body.length) ++ body

def plain (number : Binary64) : List Char :=
  match number.view with
  | .notANumber => "NaN".toList
  | .infinite negative => withSign negative "inf".toList
  | .finite negative _ => withSign negative (positional (number.shortest .upward) [])

/-- The power of ten of a number, always with a sign. -/
def exponentMark (power : Int) : List Char :=
  if 0 ≤ power then 'e' :: '+' :: signed power else 'e' :: signed power

/--
A decimal with an exponent: one digit, a point if more follow, and the power of the first digit.
-/
def exponential (decimal : Numeral) : List Char :=
  let body := digits decimal.significand
  let power : Int := decimal.exponent + body.length - 1
  let mantissa :=
    match body with
    | first :: second :: rest => first :: '.' :: second :: rest
    | short => short
  mantissa ++ exponentMark power

/-- The number with an exponent where it is very small or large; nothing if it is not finite. -/
def scientific? (number : Binary64) : Option (List Char) :=
  match number.view with
  | .finite negative _ =>
    let decimal := number.shortest .toEven
    let position : Int := decimal.exponent + (digits decimal.significand).length
    some <| withSign negative <|
      if decimal.significand = 0 ∨ (-5 < position ∧ position ≤ 16) then
        positional decimal ".0".toList
      else
        exponential decimal
  | _ => none

/-- The number without an exponent, `.0` after a whole number, and in lower case if not finite. -/
def pointed (number : Binary64) : List Char :=
  match number.view with
  | .notANumber => "nan".toList
  | .infinite negative => withSign negative "inf".toList
  | .finite negative _ => withSign negative (positional (number.shortest .upward) ".0".toList)

/-- The digits at the start of a text, and the rest of it. -/
def spanDigits (text : List Char) : List Char × List Char :=
  (text.takeWhile Char.isDigit, text.dropWhile Char.isDigit)

/-- The exponent at the end of a number: nothing, or a mark, an optional sign and digits. -/
def exponent? : List Char → Option Int
  | [] => some 0
  | mark :: text =>
    if mark = 'e' ∨ mark = 'E' then
      let (negative, body) :=
        match text with
        | '-' :: rest => (true, rest)
        | '+' :: rest => (false, rest)
        | _ => (false, text)
      if body ≠ [] ∧ body.all Char.isDigit then
        some (if negative then -(ofDigits body : Int) else ofDigits body)
      else
        none
    else
      none

/-- The number nearest to a decimal text without a sign. -/
def ofUnsigned? (negative : Bool) (text : List Char) : Option Binary64 :=
  let (whole, afterWhole) := spanDigits text
  let (fraction, afterFraction) :=
    match afterWhole with
    | '.' :: rest => spanDigits rest
    | _ => ([], afterWhole)
  if whole = [] ∧ fraction = [] then
    none
  else
    (exponent? afterFraction).map fun exponent =>
      ofDecimal negative (ofDigits (whole ++ fraction)) (exponent - fraction.length)

/--
The number that a text stands for: a decimal, `inf`, `infinity` or `NaN`, with an optional sign.
-/
def ofText? (text : List Char) : Option Binary64 :=
  let (negative, body) :=
    match text with
    | '-' :: rest => (true, rest)
    | '+' :: rest => (false, rest)
    | _ => (false, text)
  let lower := body.map Char.toLower
  if lower = "inf".toList ∨ lower = "infinity".toList then some (infinity negative)
  else if lower = "nan".toList then some notANumber
  else ofUnsigned? negative body

end RoverLink.Decimal.Binary64
