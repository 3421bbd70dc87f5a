/-!
# Decimal digits

Texts of integers and the integers that texts of digits stand for.  Only the ten digits of ASCII
count as digits.
-/

namespace RoverLink.Decimal

/-- The number that a text of digits stands for. -/
def ofDigits (digits : List Char) : Nat :=
  Nat.ofDigitChars 10 digits 0

/-- The digits of a natural number, without leading zeros. -/
def digits (number : Nat) : List Char :=
  Nat.toDigits 10 number

/-- The digits of an integer, after a minus sign if it is negative. -/
def signed : Int → List Char
  | .ofNat magnitude => digits magnitude
  | .negSucc below => '-' :: digits (below + 1)

/-- A number of `count` zeros. -/
def zeros (count : Nat) : List Char :=
  List.replicate count '0'

@[simp]
theorem ofDigits_digits (number : Nat) : ofDigits (digits number) = number :=
  Nat.ofDigitChars_toDigits (by decide) (by decide)

theorem isDigit_of_mem_digits
    {number : Nat}
    {character : Char}
    (member : character ∈ digits number) :
    character.isDigit = true :=
  Nat.isDigit_of_mem_toDigits (by decide) (by decide) member

/-- The integer that a text of an optional sign and at least one digit stands for. -/
def integer? (text : List Char) : Option Int :=
  let (negative, body) :=
    match text with
    | '+' :: rest => (false, rest)
    | '-' :: rest => (true, rest)
    | _ => (false, text)
  if body ≠ [] ∧ body.all Char.isDigit then
    some (if negative then -(ofDigits body : Int) else ofDigits body)
  else
    none

end RoverLink.Decimal
