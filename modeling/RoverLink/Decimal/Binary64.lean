/-!
# Binary64 numbers

A number of the IEEE 754 format binary64 as its 64 bits.  The exact value of a finite number is a
whole count of units, where one unit is the smallest positive number `2^(-1074)`; every comparison,
rounding and conversion of this module is integer arithmetic on such counts.

`ofRatio` rounds a ratio of natural numbers to the nearest number, and to the one with an even
significand if two are nearest.
-/

namespace RoverLink.Decimal

/-- A binary64 number as its sign, exponent and fraction bits. -/
structure Binary64 where
  /-- The bits, the sign highest. -/
  bits : UInt64
  deriving DecidableEq, Repr, Inhabited

namespace Binary64

/-- What a number is: not a number, an infinity, or a count of units with a sign. -/
inductive View where
  | notANumber
  | infinite (negative : Bool)
  | finite (negative : Bool) (units : Nat)
  deriving DecidableEq, Repr

/-- The number of units in one: the power 1074 of two. -/
def unitsPerOne : Nat :=
  Nat.pow 2 1074

/-- The number of fractions: the power 52 of two. -/
def fractionCount : Nat :=
  0x10000000000000

def isNegative (number : Binary64) : Bool :=
  0x8000000000000000 ≤ number.bits.toNat

def exponentField (number : Binary64) : Nat :=
  number.bits.toNat / fractionCount % 0x800

def fractionField (number : Binary64) : Nat :=
  number.bits.toNat % fractionCount

/-- The absolute value in units, for an exponent and a fraction of a finite number. -/
def unitsOf (exponent fraction : Nat) : Nat :=
  if exponent = 0 then fraction else (fractionCount + fraction) * Nat.pow 2 (exponent - 1)

def view (number : Binary64) : View :=
  if number.exponentField = 2047 then
    if number.fractionField = 0 then .infinite number.isNegative else .notANumber
  else
    .finite number.isNegative (unitsOf number.exponentField number.fractionField)

def isFinite (number : Binary64) : Bool :=
  number.exponentField ≠ 2047

def isPositive (number : Binary64) : Bool :=
  match number.view with
  | .notANumber => false
  | .infinite negative => !negative
  | .finite negative units => !negative && 0 < units

/-- The number with the given sign whose other bits are `magnitude`. -/
def ofMagnitude (negative : Bool) (magnitude : Nat) : Binary64 :=
  ⟨UInt64.ofNat ((if negative then 0x8000000000000000 else 0) + magnitude)⟩

def zero (negative : Bool) : Binary64 :=
  ofMagnitude negative 0

def infinity (negative : Bool) : Binary64 :=
  ofMagnitude negative (2047 * fractionCount)

/-- The quiet value that is not a number. -/
def notANumber : Binary64 :=
  ofMagnitude false (2047 * fractionCount + fractionCount / 2)

/-- The quotient rounded to the nearest natural number, a tie to the even one. -/
def divideToEven (numerator denominator : Nat) : Nat :=
  let quotient := numerator / denominator
  let twice := 2 * (numerator % denominator)
  if twice < denominator then quotient
  else if denominator < twice then quotient + 1
  else quotient + quotient % 2

/--
The number nearest to `numerator / denominator`; from half a step beyond the largest on, infinity.
-/
def ofRatio (negative : Bool) (numerator denominator : Nat) : Binary64 :=
  let units := numerator * unitsPerOne / denominator
  let shift := units.log2 - 52
  let significand := divideToEven (numerator * unitsPerOne) (denominator * Nat.pow 2 shift)
  let magnitude := shift * fractionCount + significand
  if magnitude < 2047 * fractionCount then ofMagnitude negative magnitude else infinity negative

def ofInt (integer : Int) : Binary64 :=
  ofRatio (integer < 0) integer.natAbs 1

/-- The number nearest to `significand * 10 ^ exponent`. -/
def ofDecimal (negative : Bool) (significand : Nat) (exponent : Int) : Binary64 :=
  if significand = 0 then
    zero negative
  else
    let places : Int := (Nat.toDigits 10 significand).length + exponent
    if 400 < places then infinity negative
    else if places < -400 then zero negative
    else if 0 ≤ exponent then ofRatio negative (significand * Nat.pow 10 exponent.toNat) 1
    else ofRatio negative significand (Nat.pow 10 (-exponent).toNat)

/-- Equality of values: zero has one value, and what is not a number equals nothing. -/
def sameValue (left right : Binary64) : Bool :=
  match left.view, right.view with
  | .notANumber, _ => false
  | _, .notANumber => false
  | .finite _ 0, .finite _ 0 => true
  | leftView, rightView => leftView = rightView

/-- The integer that a number without fractional part stands for. -/
def toInt? (number : Binary64) : Option Int :=
  match number.view with
  | .finite negative units =>
    if units % unitsPerOne = 0 then
      let magnitude : Int := (units / unitsPerOne : Nat)
      some (if negative then -magnitude else magnitude)
    else
      none
  | _ => none

/--
The nearest integer, half away from zero, held between `low` and `high`; zero for what is not a
number.
-/
def roundWithin (low high : Int) (number : Binary64) : Int :=
  match number.view with
  | .notANumber => 0
  | .infinite negative => if negative then low else high
  | .finite negative units =>
    let magnitude : Int := ((2 * units + unitsPerOne) / (2 * unitsPerOne) : Nat)
    max low (min high (if negative then -magnitude else magnitude))

def mul (left right : Binary64) : Binary64 :=
  match left.view, right.view with
  | .finite leftNegative leftUnits, .finite rightNegative rightUnits =>
    ofRatio (leftNegative != rightNegative) (leftUnits * rightUnits) (unitsPerOne * unitsPerOne)
  | .infinite leftNegative, .infinite rightNegative => infinity (leftNegative != rightNegative)
  | .infinite leftNegative, .finite rightNegative units =>
    if units = 0 then notANumber else infinity (leftNegative != rightNegative)
  | .finite leftNegative units, .infinite rightNegative =>
    if units = 0 then notANumber else infinity (leftNegative != rightNegative)
  | _, _ => notANumber

def div (left right : Binary64) : Binary64 :=
  match left.view, right.view with
  | .finite leftNegative leftUnits, .finite rightNegative rightUnits =>
    if rightUnits = 0 then
      if leftUnits = 0 then notANumber else infinity (leftNegative != rightNegative)
    else
      ofRatio (leftNegative != rightNegative) leftUnits rightUnits
  | .infinite leftNegative, .finite rightNegative _ => infinity (leftNegative != rightNegative)
  | .finite leftNegative _, .infinite rightNegative => zero (leftNegative != rightNegative)
  | _, _ => notANumber

def signedUnits (negative : Bool) (units : Nat) : Int :=
  if negative then -(units : Int) else units

/-- The sum, rounded to nearest; a sum of nothing is negative only if both parts are. -/
def add (left right : Binary64) : Binary64 :=
  match left.view, right.view with
  | .finite leftNegative leftUnits, .finite rightNegative rightUnits =>
    let sum := signedUnits leftNegative leftUnits + signedUnits rightNegative rightUnits
    if sum = 0 then zero (leftNegative && rightNegative)
    else ofRatio (sum < 0) sum.natAbs unitsPerOne
  | .infinite leftNegative, .infinite rightNegative =>
    if leftNegative = rightNegative then infinity leftNegative else notANumber
  | .infinite negative, .finite _ _ => infinity negative
  | .finite _ _, .infinite negative => infinity negative
  | _, _ => notANumber

/-- The order of values; what is not a number is in no order. -/
def le (left right : Binary64) : Bool :=
  match left.view, right.view with
  | .finite leftNegative leftUnits, .finite rightNegative rightUnits =>
    signedUnits leftNegative leftUnits ≤ signedUnits rightNegative rightUnits
  | .infinite leftNegative, .infinite rightNegative => leftNegative || !rightNegative
  | .infinite negative, .finite _ _ => negative
  | .finite _ _, .infinite negative => !negative
  | _, _ => false

instance : Mul Binary64 := ⟨mul⟩

instance : Div Binary64 := ⟨div⟩

instance : Add Binary64 := ⟨add⟩

end Binary64

end RoverLink.Decimal
