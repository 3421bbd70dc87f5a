import Mathlib.Algebra.Order.Field.Basic
import Mathlib.Algebra.Order.Ring.Rat
import Mathlib.Tactic.FieldSimp
import Mathlib.Tactic.Linarith
import Mathlib.Tactic.NormNum
import Mathlib.Tactic.Positivity
import Mathlib.Tactic.Ring
import RoverLink.Proofs.Decimal.Rounding

/-!
# The shortest decimal rounds back

The shortest decimal of a number lies in the interval of the ratios that round
to it, whichever way ties are decided (`holds_shortest`).  Seventeen digits are
always enough: the steps between decimals of so many digits are narrower than
the interval, which then contains one of the two decimals next to the number.
So a decimal of the same value is read as the number (`ofDecimal_of_value_eq`).
-/

namespace RoverLink.Decimal

/-- The rational number that a decimal stands for. -/
def Numeral.value (decimal : Numeral) : ℚ :=
  decimal.significand * 10 ^ decimal.exponent

@[simp]
theorem Numeral.value_strip (fuel : Nat) (decimal : Numeral) :
    (decimal.strip fuel).value = decimal.value := by
  induction fuel generalizing decimal with
  | zero => rfl
  | succ fuel induction =>
    rw [strip]
    split
    next zeros =>
      have whole : decimal.significand = 10 * (decimal.significand / 10) := by omega
      have tenfold : (decimal.significand : ℚ) = 10 * (decimal.significand / 10 : Nat) := by
        exact_mod_cast whole
      rw [induction, value, value, tenfold, zpow_add_one₀ (by norm_num)]
      ring
    next => rfl

namespace Binary64

/-! ### Grids -/

/-- Whether a rational number lies in an interval. -/
def Interval.Holds (interval : Interval) (value : ℚ) : Prop :=
  if interval.closed then
    interval.lower ≤ quartersPerOne * value ∧ quartersPerOne * value ≤ interval.upper
  else
    interval.lower < quartersPerOne * value ∧ quartersPerOne * value < interval.upper

theorem quartersPerOne_pos : 0 < quartersPerOne := by
  rcases exists_unitsPerOne_eq with ⟨exponent, _, units⟩
  rw [quartersPerOne, units]
  exact Nat.mul_pos (by decide) (Nat.two_pow_pos exponent)

theorem Interval.contains_iff
    (interval : Interval)
    {denominator point : Nat}
    {value : ℚ}
    (positive : 0 < denominator)
    (scaled : (point : ℚ) = quartersPerOne * value * denominator) :
    interval.contains denominator point = true ↔ interval.Holds value := by
  have positive' : (0 : ℚ) < denominator := by exact_mod_cast positive
  have lower : interval.lower * denominator ≤ point ↔
      (interval.lower : ℚ) ≤ quartersPerOne * value := by
    rw [← mul_le_mul_iff_of_pos_right positive', ← scaled]
    exact_mod_cast Iff.rfl
  have upper : point ≤ interval.upper * denominator ↔
      quartersPerOne * value ≤ (interval.upper : ℚ) := by
    rw [← mul_le_mul_iff_of_pos_right positive', ← scaled]
    exact_mod_cast Iff.rfl
  have lower' : interval.lower * denominator < point ↔
      (interval.lower : ℚ) < quartersPerOne * value := by
    rw [← mul_lt_mul_iff_of_pos_right positive', ← scaled]
    exact_mod_cast Iff.rfl
  have upper' : point < interval.upper * denominator ↔
      quartersPerOne * value < (interval.upper : ℚ) := by
    rw [← mul_lt_mul_iff_of_pos_right positive', ← scaled]
    exact_mod_cast Iff.rfl
  rw [contains, Holds]
  split <;> simp only [Bool.and_eq_true, decide_eq_true_eq, lower, upper, lower', upper']

/-- The step of a grid, by its numerator and its denominator. -/
theorem gridStep_eq (power : Int) :
    0 < (gridStep power).1 ∧ 0 < (gridStep power).2 ∧
      ((gridStep power).1 : ℚ) = quartersPerOne * 10 ^ power * (gridStep power).2 := by
  have positive := quartersPerOne_pos
  rw [gridStep]
  generalize quartersPerOne = one at positive ⊢
  split
  next whole =>
    refine ⟨Nat.mul_pos positive (Nat.pow_pos (by decide)), Nat.one_pos, ?_⟩
    rcases Int.eq_ofNat_of_zero_le whole with ⟨places, rfl⟩
    simp
  next negative =>
    refine ⟨positive, Nat.pow_pos (by decide), ?_⟩
    rcases Int.exists_eq_neg_ofNat (Int.le_of_lt (Int.not_le.mp negative)) with ⟨places, rfl⟩
    simp

theorem Interval.holds_of_onGrid?
    {interval : Interval}
    {tie : Tie}
    {power : Int}
    {decimal : Numeral}
    (hit : interval.onGrid? tie power = some decimal) :
    interval.Holds decimal.value := by
  rcases gridStep_eq power with ⟨_, positive, step⟩
  have point (steps : Nat) : ((steps * (gridStep power).1 : Nat) : ℚ) =
      quartersPerOne * (Numeral.value ⟨steps, power⟩) * (gridStep power).2 := by
    push_cast
    rw [step, Numeral.value]
    ring
  simp only [onGrid?] at hit
  split at hit
  next below =>
    cases hit
    exact (interval.contains_iff positive (point _)).mp (Bool.and_eq_true_iff.mp below).1
  next =>
    split at hit
    next above =>
      cases hit
      exact (interval.contains_iff positive (point _)).mp above
    next => simp at hit

theorem Interval.contains_of_lt
    {interval : Interval}
    {denominator point : Nat}
    (lower : interval.lower * denominator < point)
    (upper : point < interval.upper * denominator) :
    interval.contains denominator point = true := by
  rw [contains]
  split
  · simp [Nat.le_of_lt lower, Nat.le_of_lt upper]
  · simp [lower, upper]

/-- A grid whose step is narrower than the interval has a hit next to the number. -/
theorem Interval.isSome_onGrid?
    {interval : Interval}
    (tie : Tie)
    {power : Int}
    (below : interval.lower < interval.value)
    (above : interval.value < interval.upper)
    (narrow : interval.lower * (gridStep power).2 + (gridStep power).1 <
      interval.upper * (gridStep power).2)
    (step : 0 < (gridStep power).1)
    (positive : 0 < (gridStep power).2) :
    (interval.onGrid? tie power).isSome = true := by
  have lower := Nat.mul_lt_mul_of_pos_right below positive
  have upper := Nat.mul_lt_mul_of_pos_right above positive
  have steps := Nat.div_add_mod (interval.value * (gridStep power).2) (gridStep power).1
  have rest := Nat.mod_lt (interval.value * (gridStep power).2) step
  rw [Nat.mul_comm (gridStep power).1] at steps
  have hit : interval.contains (gridStep power).2
        (interval.value * (gridStep power).2 / (gridStep power).1 * (gridStep power).1) = true ∨
      interval.contains (gridStep power).2
        ((interval.value * (gridStep power).2 / (gridStep power).1 + 1) * (gridStep power).1) =
          true := by
    by_cases inside : interval.lower * (gridStep power).2 <
        interval.value * (gridStep power).2 / (gridStep power).1 * (gridStep power).1
    · exact .inl (contains_of_lt inside (by omega))
    · refine .inr (contains_of_lt ?_ ?_) <;> rw [Nat.succ_mul] <;> omega
  simp only [onGrid?]
  rcases hit with hit | hit <;> simp only [hit] <;> split <;> simp_all

theorem Interval.holds_search
    {interval : Interval}
    {tie : Tie}
    {leading : Int}
    {count fuel : Nat}
    (hit : ∃ digits, count ≤ digits ∧ digits < count + fuel ∧
      (interval.onGrid? tie (leading + 1 - digits)).isSome = true) :
    interval.Holds (interval.search tie leading count fuel).value := by
  induction fuel generalizing count with
  | zero =>
    rcases hit with ⟨digits, least, most, _⟩
    omega
  | succ fuel induction =>
    rw [search]
    split
    next decimal found =>
      rw [Numeral.value_strip]
      exact holds_of_onGrid? found
    next missed =>
      apply induction
      rcases hit with ⟨digits, least, most, found⟩
      refine ⟨digits, ?_, by omega, found⟩
      refine Nat.lt_of_le_of_ne least ?_
      rintro rfl
      simp [missed] at found

/-! ### Seventeen digits -/

theorem pow_digitCount_le {number : Nat} (positive : 0 < number) :
    10 ^ (digitCount number - 1) ≤ number := by
  rw [digitCount, if_neg (Nat.ne_of_gt positive)]
  by_cases single : (Nat.toDigits 10 number).length - 1 = 0
  · rw [single]
    exact positive
  · refine Nat.le_of_not_lt fun less => ?_
    have := (Nat.length_toDigits_le_iff (by decide) (by omega)).mpr less
    omega

theorem lt_pow_digitCount (number : Nat) : number < 10 ^ digitCount number := by
  rw [digitCount]
  split
  next zero => simp [zero]
  next => exact (Nat.length_toDigits_le_iff (by decide) Nat.length_toDigits_pos).mp (Nat.le_refl _)

theorem digitCount_pos {number : Nat} (positive : 0 < number) : 0 < digitCount number := by
  rw [digitCount, if_neg (Nat.ne_of_gt positive)]
  exact Nat.length_toDigits_pos

/-- The leading power of ten is at most the number. -/
theorem pow_leadingPower_le {value : Nat} (positive : 0 < value) :
    (quartersPerOne : ℚ) * 10 ^ leadingPower value ≤ value := by
  rw [leadingPower]
  split
  next least =>
    have whole : 0 < value / quartersPerOne := Nat.div_pos least quartersPerOne_pos
    rcases Nat.exists_eq_add_of_lt (digitCount_pos whole) with ⟨places, count⟩
    have power : (digitCount (value / quartersPerOne) : Int) - 1 = (places : Nat) := by omega
    have lower := pow_digitCount_le whole
    rw [show digitCount (value / quartersPerOne) - 1 = places by omega] at lower
    have product := (Nat.le_div_iff_mul_le quartersPerOne_pos).mp lower
    rw [power, zpow_natCast, mul_comm]
    exact_mod_cast product
  next below =>
    have upper := (Nat.div_lt_iff_lt_mul positive).mp
      (lt_pow_digitCount ((quartersPerOne - 1) / value))
    have product : quartersPerOne ≤ 10 ^ digitCount ((quartersPerOne - 1) / value) * value := by
      omega
    rw [zpow_neg, zpow_natCast, ← div_eq_mul_inv, div_le_iff₀ (by positivity), mul_comm]
    exact_mod_cast product

section

variable {exponent fraction : Nat}
  (fits : fraction < fractionCount)
  (nonzero : unitsOf exponent fraction ≠ 0)

include fits nonzero

/-- The number is in its interval, which is wider than the step of a decimal of 17 digits. -/
theorem widths_intervalOf :
    0 < (intervalOf exponent fraction).lower ∧
      (intervalOf exponent fraction).lower < (intervalOf exponent fraction).value ∧
      (intervalOf exponent fraction).value < (intervalOf exponent fraction).upper ∧
      (intervalOf exponent fraction).value + 10 ^ 16 * (intervalOf exponent fraction).lower <
        10 ^ 16 * (intervalOf exponent fraction).upper := by
  have step : 0 < Nat.pow 2 (exponent - 1) := Nat.two_pow_pos _
  have most : unitsOf exponent fraction + Nat.pow 2 (exponent - 1) ≤
      2 * fractionCount * Nat.pow 2 (exponent - 1) := by
    rw [unitsOf_eq, ← Nat.succ_mul]
    exact Nat.mul_le_mul_right _ (Nat.succ_le_of_lt (significandOf_lt exponent fits))
  have least : Nat.pow 2 (exponent - 1) ≤ unitsOf exponent fraction := by
    rw [unitsOf_eq] at nonzero ⊢
    exact Nat.le_mul_of_pos_left _ (Nat.pos_of_ne_zero (Nat.ne_zero_of_mul_ne_zero_left nonzero))
  have leading : fraction = 0 → 1 < exponent →
      unitsOf exponent fraction = fractionCount * Nat.pow 2 (exponent - 1) := by
    rintro rfl above
    rw [unitsOf, if_neg (by omega), Nat.add_zero]
  simp only [intervalOf]
  simp only [fractionCount] at most leading
  split <;> omega

theorem isSome_onGrid?_seventeen (tie : Tie) :
    ((intervalOf exponent fraction).onGrid? tie
      (leadingPower (intervalOf exponent fraction).value + 1 - (17 : Nat))).isSome = true := by
  rcases widths_intervalOf fits nonzero with ⟨_, below, above, wide⟩
  generalize intervalOf exponent fraction = interval at below above wide
  have lower := pow_leadingPower_le (Nat.zero_lt_of_lt below)
  generalize leadingPower interval.value = leading at lower
  rcases gridStep_eq (leading + 1 - (17 : Nat)) with ⟨product, positive, step⟩
  have places : (10 : ℚ) ^ leading = 10 ^ 16 * 10 ^ (leading + 1 - (17 : Nat)) := by
    rw [← zpow_natCast, ← zpow_add₀ (by norm_num)]
    congr 1
    push_cast
    ring
  have scaled : 10 ^ 16 * (gridStep (leading + 1 - (17 : Nat))).1 ≤
      interval.value * (gridStep (leading + 1 - (17 : Nat))).2 := by
    have ofStep : (10 ^ 16 * (gridStep (leading + 1 - (17 : Nat))).1 : ℚ) ≤
        interval.value * (gridStep (leading + 1 - (17 : Nat))).2 := by
      calc (10 ^ 16 * (gridStep (leading + 1 - (17 : Nat))).1 : ℚ)
          = quartersPerOne * 10 ^ leading * (gridStep (leading + 1 - (17 : Nat))).2 := by
            rw [step, places]
            ring
        _ ≤ interval.value * (gridStep (leading + 1 - (17 : Nat))).2 := by gcongr
    exact_mod_cast ofStep
  have wider := Nat.mul_lt_mul_of_pos_right wide positive
  refine interval.isSome_onGrid? tie below above ?_ product positive
  rw [Nat.add_mul, Nat.mul_assoc, Nat.mul_assoc] at wider
  omega

end

/-! ### Reading the shortest decimal -/

/-- A number is put together from its fields. -/
theorem ofMagnitude_fields (number : Binary64) :
    ofMagnitude number.isNegative
      (number.exponentField * fractionCount + number.fractionField) = number := by
  rcases number with ⟨bits⟩
  have range := bits.toNat_lt
  have same : (if decide (0x8000000000000000 ≤ bits.toNat) = true then 0x8000000000000000 else 0) +
      (bits.toNat / fractionCount % 0x800 * fractionCount + bits.toNat % fractionCount) =
        bits.toNat := by
    simp only [fractionCount, decide_eq_true_eq]
    split <;> omega
  rw [ofMagnitude, isNegative, exponentField, fractionField]
  dsimp only
  rw [same, UInt64.ofNat_toNat]

theorem fractionField_lt (number : Binary64) : number.fractionField < fractionCount :=
  Nat.mod_lt _ (by decide)

theorem exponentField_lt (number : Binary64) : number.exponentField < 0x800 :=
  Nat.mod_lt _ (by decide)

section

-- The number of places is not to be computed with.
variable {limit : Nat} (large : limit = 400)

include large

theorem quartersPerOne_lt : quartersPerOne < 10 ^ limit := by
  rcases exists_unitsPerOne_eq with ⟨exponent, same, units⟩
  calc quartersPerOne = 2 ^ 2 * 2 ^ exponent := by rw [quartersPerOne, units]; rfl
    _ = 2 ^ (2 + exponent) := (Nat.pow_add 2 2 exponent).symm
    _ < 2 ^ (3 * limit) := Nat.pow_lt_pow_right (by decide) (by omega)
    _ = (2 ^ 3) ^ limit := Nat.pow_mul 2 3 limit
    _ ≤ 10 ^ limit := Nat.pow_le_pow_left (by decide) limit

theorem upper_intervalOf_lt
    {exponent fraction : Nat}
    (finite : exponent < 2047)
    (fits : fraction < fractionCount) :
    (intervalOf exponent fraction).upper < quartersPerOne * 10 ^ limit := by
  rcases exists_unitsPerOne_eq with ⟨least, same, units⟩
  have most : unitsOf exponent fraction + Nat.pow 2 (exponent - 1) ≤
      2 * fractionCount * Nat.pow 2 (exponent - 1) := by
    rw [unitsOf_eq, ← Nat.succ_mul]
    exact Nat.mul_le_mul_right _ (Nat.succ_le_of_lt (significandOf_lt exponent fits))
  calc (intervalOf exponent fraction).upper
      ≤ 4 * (2 * fractionCount * Nat.pow 2 (exponent - 1)) := by
        simp only [intervalOf]
        omega
    _ = 2 ^ 55 * 2 ^ (exponent - 1) := (Nat.mul_assoc 4 _ _).symm
    _ = 2 ^ (55 + (exponent - 1)) := (Nat.pow_add 2 55 _).symm
    _ < 2 ^ (2 + least + 3 * limit) := Nat.pow_lt_pow_right (by decide) (by omega)
    _ = 2 ^ 2 * 2 ^ least * (2 ^ 3) ^ limit := by rw [Nat.pow_add, Nat.pow_mul, Nat.pow_add]
    _ ≤ 2 ^ 2 * 2 ^ least * 10 ^ limit :=
        Nat.mul_le_mul_left _ (Nat.pow_le_pow_left (by decide) limit)
    _ = quartersPerOne * 10 ^ limit := by rw [quartersPerOne, units]; rfl

end

theorem Interval.le_of_holds
    {interval : Interval}
    {value : ℚ}
    (inside : interval.Holds value) :
    interval.lower ≤ quartersPerOne * value ∧ quartersPerOne * value ≤ interval.upper := by
  rw [Holds] at inside
  split at inside
  next => exact inside
  next => exact ⟨le_of_lt inside.1, le_of_lt inside.2⟩

/-! ### The place of the first digit -/

section

variable {significand : Nat} {exponent : Int} {limit : Nat}

/-- A decimal that is not zero lies between two powers of ten. -/
theorem exists_places
    (digit : significand ≠ 0) :
    ∃ rest : Nat, (Nat.toDigits 10 significand).length = rest + 1 ∧
      (10 : ℚ) ^ rest ≤ significand ∧ (significand : ℚ) < 10 ^ (rest + 1) := by
  have positive := Nat.pos_of_ne_zero digit
  have count : digitCount significand = (Nat.toDigits 10 significand).length := if_neg digit
  rcases Nat.exists_eq_add_of_lt (digitCount_pos positive) with ⟨rest, digits⟩
  rw [Nat.zero_add] at digits
  have least := pow_digitCount_le positive
  have most := lt_pow_digitCount significand
  rw [digits] at least most
  refine ⟨rest, count ▸ digits, ?_, ?_⟩
  · exact_mod_cast least
  · exact_mod_cast most

theorem significand_ne_zero
    (above : 1 < 10 ^ limit * Numeral.value ⟨significand, exponent⟩) :
    significand ≠ 0 := by
  rintro rfl
  simp only [Numeral.value, Nat.cast_zero, zero_mul, mul_zero] at above
  exact absurd above (by norm_num)

theorem le_places
    (above : 1 < 10 ^ limit * Numeral.value ⟨significand, exponent⟩) :
    -(limit : Int) ≤ (Nat.toDigits 10 significand).length + exponent := by
  rcases exists_places (significand_ne_zero above) with ⟨rest, places, _, most⟩
  have power : (0 : ℚ) < 10 ^ exponent := zpow_pos (by norm_num) exponent
  rw [places]
  refine le_of_not_gt fun less => absurd above (not_lt.mpr ?_)
  calc 10 ^ limit * Numeral.value ⟨significand, exponent⟩
      ≤ 10 ^ limit * (10 ^ (rest + 1) * 10 ^ exponent) := by
        rw [Numeral.value]
        gcongr
    _ = (10 : ℚ) ^ ((limit : Int) + ((rest + 1 : Nat) : Int) + exponent) := by
        rw [zpow_add₀ (by norm_num), zpow_add₀ (by norm_num), zpow_natCast, zpow_natCast,
          mul_assoc]
    _ ≤ 1 := zpow_le_one_of_nonpos₀ (by norm_num) (by omega)

theorem places_le
    (digit : significand ≠ 0)
    (below : Numeral.value ⟨significand, exponent⟩ < 10 ^ limit) :
    (Nat.toDigits 10 significand).length + exponent ≤ (limit : Int) := by
  rcases exists_places digit with ⟨rest, places, least, _⟩
  have power : (0 : ℚ) < 10 ^ exponent := zpow_pos (by norm_num) exponent
  rw [places]
  refine le_of_not_gt fun more => absurd below (not_lt.mpr ?_)
  calc (10 : ℚ) ^ limit = 10 ^ (limit : Int) := (zpow_natCast 10 limit).symm
    _ ≤ 10 ^ ((rest : Int) + exponent) := zpow_le_zpow_right₀ (by norm_num) (by omega)
    _ = 10 ^ rest * 10 ^ exponent := by rw [zpow_add₀ (by norm_num), zpow_natCast]
    _ ≤ Numeral.value ⟨significand, exponent⟩ := by
        rw [Numeral.value]
        gcongr

end

section

variable {number : Binary64}
  (finite : number.isFinite = true)
  (nonzero : unitsOf number.exponentField number.fractionField ≠ 0)

include finite

theorem exponentField_lt_of_isFinite : number.exponentField < 2047 := by
  have := exponentField_lt number
  have := of_decide_eq_true finite
  omega

include nonzero

/-- What lies in the interval of a number is neither very large nor very small. -/
theorem bounds_of_holds
    {value : ℚ}
    (inside : (intervalOf number.exponentField number.fractionField).Holds value)
    {limit : Nat}
    (large : limit = 400) :
    value < 10 ^ limit ∧ 1 < 10 ^ limit * value := by
  rcases widths_intervalOf (fractionField_lt number) nonzero with ⟨positive, _⟩
  have upper := upper_intervalOf_lt large (exponentField_lt_of_isFinite finite)
    (fractionField_lt number)
  have scale := quartersPerOne_lt large
  have quarters := quartersPerOne_pos
  rcases Interval.le_of_holds inside with ⟨least, most⟩
  generalize intervalOf number.exponentField number.fractionField = interval at *
  generalize quartersPerOne = quarter at *
  have unit : (0 : ℚ) < quarter := by exact_mod_cast quarters
  have one : (1 : ℚ) ≤ quarter * value := by
    refine le_trans ?_ least
    exact_mod_cast positive
  have some : 0 < value := (mul_pos_iff_of_pos_left unit).mp (lt_of_lt_of_le one_pos one)
  constructor
  · refine lt_of_mul_lt_mul_left (lt_of_le_of_lt most ?_) unit.le
    exact_mod_cast upper
  · refine lt_of_le_of_lt one (mul_lt_mul_of_pos_right ?_ some)
    exact_mod_cast scale

variable {significand : Nat}
  {exponent : Int}
  (inside : (intervalOf number.exponentField number.fractionField).Holds
    (Numeral.value ⟨significand, exponent⟩))

include inside

/-- A decimal in the interval of a number is read as the number. -/
theorem ofDecimal_of_holds : ofDecimal number.isNegative significand exponent = number := by
  rcases (⟨400, rfl⟩ : ∃ limit, limit = 400) with ⟨limit, large⟩
  rcases bounds_of_holds finite nonzero inside large with ⟨below, above⟩
  have digit := significand_ne_zero above
  have least := le_places above
  have most := places_le digit below
  have range := exponentField_lt_of_isFinite finite
  have read {numerator denominator : Nat}
      (positive : 0 < denominator)
      (same : Numeral.value ⟨significand, exponent⟩ * denominator = numerator) :
      ofRatio number.isNegative numerator denominator = number := by
    conv => rhs; rw [← ofMagnitude_fields number]
    apply ofRatio_of_contains _ positive range (fractionField_lt number)
    apply (Interval.contains_iff _ positive ?_).mpr inside
    rw [mul_assoc, same, quartersPerOne]
    push_cast
    ring
  rw [ofDecimal, if_neg digit, if_neg (by omega), if_neg (by omega)]
  split
  next whole =>
    rcases Int.eq_ofNat_of_zero_le whole with ⟨places, rfl⟩
    apply read Nat.one_pos
    simp [Numeral.value]
  next fractional =>
    rcases Int.exists_eq_neg_ofNat (Int.le_of_lt (Int.not_le.mp fractional)) with ⟨places, rfl⟩
    apply read (Nat.pow_pos (by decide))
    simp [Numeral.value]

end

theorem holds_shortest
    {number : Binary64}
    (nonzero : unitsOf number.exponentField number.fractionField ≠ 0)
    (tie : Tie) :
    (intervalOf number.exponentField number.fractionField).Holds
      (number.shortest tie).value := by
  rw [shortest, if_neg nonzero]
  exact Interval.holds_search
    ⟨17, by decide, by decide, isSome_onGrid?_seventeen (fractionField_lt number) nonzero tie⟩

/-- A decimal with the value of the shortest one is read as the number. -/
theorem ofDecimal_of_value_eq
    {number : Binary64}
    (finite : number.isFinite = true)
    {tie : Tie}
    {significand : Nat}
    {exponent : Int}
    (same : Numeral.value ⟨significand, exponent⟩ = (number.shortest tie).value) :
    ofDecimal number.isNegative significand exponent = number := by
  by_cases zero : unitsOf number.exponentField number.fractionField = 0
  · have none : (significand : ℚ) * 10 ^ exponent = 0 := by
      rw [shortest, if_pos zero] at same
      simpa [Numeral.value] using same
    have digit : significand = 0 := by
      have power : (10 : ℚ) ^ exponent ≠ 0 := zpow_ne_zero exponent (by norm_num)
      exact_mod_cast (mul_eq_zero.mp none).resolve_right power
    have fields : number.exponentField = 0 ∧ number.fractionField = 0 := by
      rw [unitsOf] at zero
      split at zero
      next least => exact ⟨least, zero⟩
      next =>
        simp [fractionCount] at zero
    have bits := ofMagnitude_fields number
    rw [fields.1, fields.2] at bits
    rw [ofDecimal, if_pos digit]
    simpa [Binary64.zero] using bits
  · apply ofDecimal_of_holds finite zero
    rw [same]
    exact holds_shortest zero tie

end Binary64

end RoverLink.Decimal
