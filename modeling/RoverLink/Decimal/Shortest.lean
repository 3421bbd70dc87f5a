import RoverLink.Decimal.Binary64

/-!
# The shortest decimal of a binary64 number

Among the decimals that round to a given number, the ones with the fewest digits are the shortest,
and of these the one nearest to the number is chosen; if two are equally near, a rule for ties
decides.  The real numbers that round to a number form an interval around it, whose ends belong to
it exactly when its significand is even.  For each count of digits the two neighbours of the number
on the decimal grid of that count are tried, so the first grid with a hit gives the answer.
-/

namespace RoverLink.Decimal

/-- The decimal `significand * 10 ^ exponent`. -/
structure Numeral where
  /-- The digits as one number. -/
  significand : Nat
  /-- The power of ten of the last digit. -/
  exponent : Int
  deriving DecidableEq, Repr

namespace Numeral

/-- The same decimal without zeros at the end of its digits, for at most `fuel` zeros. -/
def strip : Nat → Numeral → Numeral
  | 0, decimal => decimal
  | fuel + 1, decimal =>
    if decimal.significand % 10 = 0 ∧ decimal.significand ≠ 0 then
      strip fuel ⟨decimal.significand / 10, decimal.exponent + 1⟩
    else
      decimal

end Numeral

/-- Which of two decimals that are equally near to a number stands for it. -/
inductive Tie where
  | upward
  | toEven
  deriving DecidableEq, Repr

/--
Whether the smaller of two neighbouring grid points is taken, for its count of steps and the gaps
between the number and both points.
-/
def Tie.takesBelow (tie : Tie) (steps belowGap aboveGap : Nat) : Bool :=
  if belowGap = aboveGap then
    match tie with
    | .upward => false
    | .toEven => steps % 2 = 0
  else
    belowGap < aboveGap

namespace Binary64

/--
The interval of the positive reals that round to a number, in quarters of a unit: the lower end, the
number itself, the upper end, and whether the ends belong to it.
-/
structure Interval where
  lower : Nat
  value : Nat
  upper : Nat
  closed : Bool

/-- The interval that belongs to an exponent and a fraction of a finite number other than zero. -/
def intervalOf (exponent fraction : Nat) : Interval :=
  let step := Nat.pow 2 (exponent - 1)
  let value := 4 * unitsOf exponent fraction
  let below := if fraction = 0 ∧ 1 < exponent then step else 2 * step
  ⟨value - below, value, value + 2 * step, fraction % 2 = 0⟩

/-- The least count of digits that is enough to write `number`; none for zero. -/
def digitCount (number : Nat) : Nat :=
  if number = 0 then 0 else (Nat.toDigits 10 number).length

def quartersPerOne : Nat :=
  4 * unitsPerOne

/-- The exponent `k` with `10 ^ k ≤ value < 10 ^ (k + 1)`, for a positive value in quarters. -/
def leadingPower (value : Nat) : Int :=
  if quartersPerOne ≤ value then
    (digitCount (value / quartersPerOne) : Int) - 1
  else
    -(digitCount ((quartersPerOne - 1) / value) : Int)

/-- The step `10 ^ power`, as a numerator and a denominator over quarters of a unit. -/
def gridStep (power : Int) : Nat × Nat :=
  if 0 ≤ power then (quartersPerOne * Nat.pow 10 power.toNat, 1)
  else (quartersPerOne, Nat.pow 10 (-power).toNat)

/-- Whether a grid point, already multiplied by the grid's denominator, lies in the interval. -/
def Interval.contains (interval : Interval) (denominator point : Nat) : Bool :=
  if interval.closed then
    interval.lower * denominator ≤ point && point ≤ interval.upper * denominator
  else
    interval.lower * denominator < point && point < interval.upper * denominator

/-- The grid point of the given step that stands for the number, if one lies in its interval. -/
def Interval.onGrid? (interval : Interval) (tie : Tie) (power : Int) : Option Numeral :=
  let (step, denominator) := gridStep power
  let below := interval.value * denominator / step
  let above := below + 1
  let belowHit := interval.contains denominator (below * step)
  let aboveHit := interval.contains denominator (above * step)
  let belowGap := interval.value * denominator - below * step
  let aboveGap := above * step - interval.value * denominator
  if belowHit && (!aboveHit || tie.takesBelow below belowGap aboveGap) then some ⟨below, power⟩
  else if aboveHit then some ⟨above, power⟩
  else none

/-- The first hit on the grids of `count`, `count + 1`, … digits, for at most `fuel` grids. -/
def Interval.search (interval : Interval) (tie : Tie) (leading : Int) : Nat → Nat → Numeral
  | _, 0 => ⟨0, 0⟩
  | count, fuel + 1 =>
    match interval.onGrid? tie (leading + 1 - count) with
    | some decimal => decimal.strip 20
    | none => interval.search tie leading (count + 1) fuel

/-- The shortest decimal of the absolute value of a finite number. -/
def shortest (number : Binary64) (tie : Tie) : Numeral :=
  if unitsOf number.exponentField number.fractionField = 0 then
    ⟨0, 0⟩
  else
    let interval := intervalOf number.exponentField number.fractionField
    interval.search tie (leadingPower interval.value) 1 17

end Binary64

end RoverLink.Decimal
