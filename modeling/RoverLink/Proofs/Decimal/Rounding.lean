import RoverLink.Decimal.Shortest
import RoverLink.Proofs.Decimal.Exact

/-!
# Ratios that round to a number

Around every finite number there is an interval of ratios that `ofRatio` rounds
to it (`ofRatio_of_contains`).  Below a power of two the steps between numbers
are half as wide as above, so that the significand of such a ratio may be
rounded up to the next power of two.
-/

namespace RoverLink.Decimal.Binary64

/-! ### Quotients -/

/-- Whether a ratio is within half a step of a natural number; at half a step, of an even one. -/
structure IsNearest (numerator denominator quotient : Nat) : Prop where
  lower : 2 * (quotient * denominator) ≤ 2 * numerator + denominator
  upper : 2 * numerator ≤ 2 * (quotient * denominator) + denominator
  ofOdd : quotient % 2 = 1 →
    2 * (quotient * denominator) < 2 * numerator + denominator ∧
      2 * numerator < 2 * (quotient * denominator) + denominator

theorem divideToEven_eq
    {numerator denominator quotient : Nat}
    (nearest : IsNearest numerator denominator quotient)
    (positive : 0 < denominator) :
    divideToEven numerator denominator = quotient := by
  rcases nearest with ⟨lower, upper, ofOdd⟩
  have whole := Nat.div_add_mod numerator denominator
  have less := Nat.mod_lt numerator positive
  rw [Nat.mul_comm denominator] at whole
  -- The nearest number is one of the two that the ratio lies between.
  have atLeast : numerator / denominator < quotient + 1 := by
    apply Nat.lt_of_mul_lt_mul_right (a := denominator)
    rw [Nat.add_mul]
    omega
  have atMost : quotient < numerator / denominator + 2 := by
    apply Nat.lt_of_mul_lt_mul_right (a := denominator)
    rw [Nat.add_mul]
    omega
  rcases (show quotient = numerator / denominator ∨ quotient = numerator / denominator + 1 by omega)
    with same | next
  · rw [← same] at whole
    rw [divideToEven, ← same]
    split
    next => rfl
    next =>
      rw [if_neg (by omega)]
      omega
  · rw [next, Nat.add_mul] at lower ofOdd
    rw [divideToEven, if_neg (by omega)]
    split
    next => exact next.symm
    next => omega

/-! ### Intervals -/

/-- The digits of a number in base two as one number, with the leading one of a normal number. -/
def significandOf (exponent fraction : Nat) : Nat :=
  if exponent = 0 then fraction else fractionCount + fraction

theorem unitsOf_eq (exponent fraction : Nat) :
    unitsOf exponent fraction = significandOf exponent fraction * Nat.pow 2 (exponent - 1) := by
  rw [unitsOf, significandOf]
  split
  next zero =>
    subst zero
    exact (Nat.mul_one fraction).symm
  next => rfl

/-- The bits without the sign count up through the significands of every exponent. -/
theorem magnitude_eq (exponent fraction : Nat) :
    exponent * fractionCount + fraction =
      (exponent - 1) * fractionCount + significandOf exponent fraction := by
  rw [significandOf]
  split
  next zero => rw [zero]
  next nonzero =>
    rcases Nat.exists_eq_succ_of_ne_zero nonzero with ⟨shift, rfl⟩
    rw [Nat.succ_sub_one, Nat.succ_mul]
    omega

theorem significandOf_mod_two (exponent fraction : Nat) :
    significandOf exponent fraction % 2 = fraction % 2 := by
  simp only [significandOf, fractionCount]
  split <;> omega

theorem significandOf_lt {fraction : Nat} (exponent : Nat) (fits : fraction < fractionCount) :
    significandOf exponent fraction < 2 * fractionCount := by
  rw [significandOf]
  split <;> omega

/-- The units of a number are a significand of 53 bits times a power of two. -/
theorem exists_units_eq_of_view
    {number : Binary64}
    {negative : Bool}
    {units : Nat}
    (view : number.view = .finite negative units) :
    ∃ significand shift,
      significand < 2 * fractionCount ∧ units = significand * Nat.pow 2 shift := by
  rw [Binary64.view] at view
  split at view
  next => split at view <;> cases view
  next =>
    injection view with _ same
    exact ⟨significandOf number.exponentField number.fractionField, number.exponentField - 1,
      significandOf_lt _ (Nat.mod_lt _ (by decide)), by rw [← same, unitsOf_eq]⟩

section

variable {exponent fraction numerator denominator : Nat}

theorem unitsOf_mul (exponent fraction denominator : Nat) :
    unitsOf exponent fraction * denominator =
      significandOf exponent fraction * (denominator * Nat.pow 2 (exponent - 1)) := by
  rw [unitsOf_eq, Nat.mul_assoc, Nat.mul_comm (Nat.pow 2 _) denominator]

/-- The ratios in an interval are within half a step of the number that it belongs to. -/
theorem isNearest_of_contains
    (inside : (intervalOf exponent fraction).contains denominator (4 * numerator) = true) :
    IsNearest numerator (denominator * Nat.pow 2 (exponent - 1))
      (significandOf exponent fraction) := by
  have parity := significandOf_mod_two exponent fraction
  have step : Nat.pow 2 (exponent - 1) * denominator = denominator * Nat.pow 2 (exponent - 1) :=
    Nat.mul_comm _ _
  simp only [intervalOf, Interval.contains, Nat.sub_mul, Nat.add_mul, Nat.mul_assoc, unitsOf_mul,
    step] at inside
  by_cases even : fraction % 2 = 0
  · simp only [even, decide_true, if_true, Bool.and_eq_true, decide_eq_true_eq] at inside
    split at inside <;> constructor <;> simp only [Nat.mul_assoc, step] at inside <;> omega
  · simp only [even, decide_false, Bool.false_eq_true, if_false, Bool.and_eq_true,
      decide_eq_true_eq] at inside
    split at inside <;> constructor <;> simp only [Nat.mul_assoc, step] at inside <;> omega

/-- Below a power of two the ratios in its interval are within a quarter of a step. -/
theorem lower_of_contains
    (above : 1 < exponent)
    (inside : (intervalOf exponent 0).contains denominator (4 * numerator) = true) :
    4 * (fractionCount * (denominator * Nat.pow 2 (exponent - 1))) ≤
      4 * numerator + denominator * Nat.pow 2 (exponent - 1) := by
  have leading : significandOf exponent 0 = fractionCount :=
    if_neg (Nat.ne_of_gt (Nat.zero_lt_of_lt above))
  have step : Nat.pow 2 (exponent - 1) * denominator = denominator * Nat.pow 2 (exponent - 1) :=
    Nat.mul_comm _ _
  simp only [intervalOf, Interval.contains, Nat.sub_mul, Nat.mul_assoc, unitsOf_mul, step, above,
    and_self, if_true, Nat.zero_mod, decide_true, Bool.and_eq_true, decide_eq_true_eq,
    leading] at inside
  omega

/-- The bits that a ratio is rounded to, for a step that its quotient asks for. -/
theorem ofRatio_eq_of_isNearest
    {shift significand : Nat}
    (negative : Bool)
    (numerator : Nat)
    (positive : 0 < denominator)
    (shifted : (numerator * unitsPerOne / denominator).log2 - 52 = shift)
    (nearest : IsNearest (numerator * unitsPerOne) (denominator * Nat.pow 2 shift) significand)
    (finite : shift * fractionCount + significand < 2047 * fractionCount) :
    ofRatio negative numerator denominator =
      ofMagnitude negative (shift * fractionCount + significand) := by
  have rounded := divideToEven_eq nearest (Nat.mul_pos positive (Nat.two_pow_pos shift))
  simp only [ofRatio, shifted, rounded, if_pos finite]

/-- A quotient of 53 bits and more asks for the step by which it has more. -/
theorem log2_sub_eq
    {quotient shift : Nat}
    (least : fractionCount * Nat.pow 2 shift ≤ quotient)
    (below : quotient < 2 * fractionCount * Nat.pow 2 shift) :
    quotient.log2 - 52 = shift := by
  have positive : 0 < fractionCount * Nat.pow 2 shift :=
    Nat.mul_pos (by decide) (Nat.two_pow_pos shift)
  have log : quotient.log2 = 52 + shift := by
    apply (Nat.log2_eq_iff (by omega)).mpr
    rw [show 52 + shift + 1 = 53 + shift by omega, Nat.pow_add, Nat.pow_add]
    exact ⟨least, below⟩
  omega

theorem log2_sub_eq_zero {quotient : Nat} (below : quotient < 2 * fractionCount) :
    quotient.log2 - 52 = 0 := by
  by_cases zero : quotient = 0
  · rw [zero, Nat.log2_zero]
  · have := (Nat.log2_lt zero).mpr (show quotient < 2 ^ 53 from below)
    omega

/-- The quotient of a ratio that is nearest to a significand has no more bits. -/
theorem IsNearest.div_lt
    {step significand : Nat}
    (nearest : IsNearest numerator (denominator * step) significand)
    (small : significand < 2 * fractionCount)
    (positive : 0 < denominator * step) :
    numerator / denominator < 2 * fractionCount * step := by
  apply Nat.div_lt_of_lt_mul
  have most := Nat.mul_le_mul_right (denominator * step) (Nat.succ_le_of_lt small)
  have upper := nearest.upper
  rw [Nat.succ_mul] at most
  rw [Nat.mul_left_comm]
  omega

/-- A ratio that is within a quarter of a step below a power of two is rounded up to it. -/
theorem ofRatio_of_below
    {shift numerator : Nat}
    (negative : Bool)
    (positive : 0 < denominator)
    (lower : 4 * (fractionCount * (denominator * Nat.pow 2 (shift + 1))) ≤
      4 * (numerator * unitsPerOne) + denominator * Nat.pow 2 (shift + 1))
    (below : numerator * unitsPerOne < fractionCount * (denominator * Nat.pow 2 (shift + 1)))
    (finite : (shift + 1) * fractionCount + fractionCount < 2047 * fractionCount) :
    ofRatio negative numerator denominator =
      ofMagnitude negative ((shift + 1) * fractionCount + fractionCount) := by
  have twice : denominator * Nat.pow 2 (shift + 1) = 2 * (denominator * Nat.pow 2 shift) := by
    rw [Nat.pow_eq, Nat.pow_succ, ← Nat.mul_assoc, Nat.mul_comm _ 2, Nat.pow_eq]
  have carried : (shift + 1) * fractionCount + fractionCount =
      shift * fractionCount + 2 * fractionCount := by
    rw [Nat.succ_mul]
    omega
  have step : 0 < denominator * Nat.pow 2 shift := Nat.mul_pos positive (Nat.two_pow_pos shift)
  rw [twice] at lower below
  rw [carried] at finite ⊢
  have nearest : IsNearest (numerator * unitsPerOne) (denominator * Nat.pow 2 shift)
      (2 * fractionCount) := by
    constructor <;> simp only [fractionCount] at * <;> omega
  apply ofRatio_eq_of_isNearest negative numerator positive ?_ nearest finite
  apply log2_sub_eq
  · rw [Nat.le_div_iff_mul_le positive, Nat.mul_assoc, Nat.mul_comm _ denominator]
    simp only [fractionCount] at lower ⊢
    omega
  · apply Nat.div_lt_of_lt_mul
    rw [Nat.mul_left_comm, Nat.mul_assoc, Nat.mul_left_comm]
    exact below

/--
A ratio in the interval of a number is rounded to it.  The quotient asks for the
step of the number, or for half of it if the number is a power of two and the
ratio is below.
-/
theorem ofRatio_of_contains
    {numerator : Nat}
    (negative : Bool)
    (positive : 0 < denominator)
    (finite : exponent < 2047)
    (fits : fraction < fractionCount)
    (inside : (intervalOf exponent fraction).contains denominator
      (4 * (numerator * unitsPerOne)) = true) :
    ofRatio negative numerator denominator =
      ofMagnitude negative (exponent * fractionCount + fraction) := by
  have nearest := isNearest_of_contains inside
  have range : exponent * fractionCount + fraction < 2047 * fractionCount := by
    simp only [fractionCount] at fits ⊢
    omega
  have stepped : 0 < denominator * Nat.pow 2 (exponent - 1) :=
    Nat.mul_pos positive (Nat.two_pow_pos _)
  have below := nearest.div_lt (significandOf_lt exponent fits) stepped
  rw [magnitude_eq] at range ⊢
  by_cases lowest : exponent ≤ 1
  · have none : exponent - 1 = 0 := by omega
    apply ofRatio_eq_of_isNearest negative numerator positive ?_ nearest range
    rw [none] at below ⊢
    exact log2_sub_eq_zero (by simpa using below)
  by_cases least : fractionCount * Nat.pow 2 (exponent - 1) ≤ numerator * unitsPerOne / denominator
  · have shift := log2_sub_eq least below
    exact ofRatio_eq_of_isNearest negative numerator positive shift nearest range
  -- The significand is the least one of a normal number, and the ratio is below it.
  rw [Nat.not_le, Nat.div_lt_iff_lt_mul positive, Nat.mul_assoc,
    Nat.mul_comm (Nat.pow 2 _) denominator] at least
  have first : fraction = 0 := by
    have lower := nearest.lower
    have atMost : significandOf exponent fraction < fractionCount + 1 := by
      apply Nat.lt_of_mul_lt_mul_right (a := denominator * Nat.pow 2 (exponent - 1))
      rw [Nat.succ_mul]
      omega
    rw [significandOf, if_neg (by omega)] at atMost
    omega
  subst first
  have quarter := lower_of_contains (Nat.lt_of_not_le lowest) inside
  have leading : significandOf exponent 0 = fractionCount := if_neg (by omega)
  rw [leading] at range ⊢
  rcases Nat.exists_eq_add_of_lt (Nat.lt_of_not_le lowest) with ⟨shift, rfl⟩
  rw [show 1 + shift + 1 - 1 = shift + 1 by omega] at quarter least range ⊢
  exact ofRatio_of_below negative positive quarter least range

end

/-! ### How large a rounded ratio is -/

theorem le_divideToEven (numerator denominator : Nat) :
    numerator / denominator ≤ divideToEven numerator denominator := by
  rw [divideToEven]
  split
  next => exact Nat.le_refl _
  next => split <;> omega

theorem divideToEven_le (numerator denominator : Nat) :
    divideToEven numerator denominator ≤ numerator / denominator + 1 := by
  rw [divideToEven]
  split
  next => exact Nat.le_succ _
  next => split <;> omega

/-- The units of a finite number whose significand may have been rounded up to 54 bits. -/
theorem view_ofMagnitude_of_le
    (negative : Bool)
    {significand shift : Nat}
    (most : significand ≤ 2 * fractionCount)
    (least : shift = 0 ∨ fractionCount ≤ significand)
    (finite : shift * fractionCount + significand < 2047 * fractionCount) :
    (ofMagnitude negative (shift * fractionCount + significand)).view =
      .finite negative (significand * Nat.pow 2 shift) := by
  simp only [fractionCount] at finite
  by_cases normal : fractionCount ≤ significand
  · by_cases carried : significand = 2 * fractionCount
    · have next : shift * fractionCount + significand =
          (shift + 1) * fractionCount + fractionCount := by
        rw [carried, Nat.succ_mul shift]
        omega
      have twice : significand * Nat.pow 2 shift = fractionCount * Nat.pow 2 (shift + 1) := by
        rw [carried, Nat.pow_eq, Nat.pow_eq, Nat.pow_succ, Nat.mul_comm _ 2, ← Nat.mul_assoc,
          Nat.mul_comm fractionCount 2]
      simp only [carried, fractionCount] at finite
      rw [next, twice]
      exact view_ofMagnitude negative ⟨Nat.le_refl _, by decide, by omega⟩
    · simp only [fractionCount] at normal
      exact view_ofMagnitude negative ⟨normal, by omega, by omega⟩
  · have zero : shift = 0 := by omega
    subst zero
    rw [view_ofMagnitude_of_fields negative (by decide) (by omega) (by decide), unitsOf, if_pos rfl]
    exact congrArg _ (Nat.mul_one significand).symm

/-- What a ratio is rounded to, for its quotient in units. -/
inductive RoundsTo (negative : Bool) (quotient : Nat) (number : Binary64) : Prop where
  | infinite
      (large : ∀ power ≤ 2097, Nat.pow 2 power ≤ quotient)
      (view : number.view = .infinite negative) :
      RoundsTo negative quotient number
  | finite {units : Nat}
      (view : number.view = .finite negative units)
      (least : ∀ {power}, Nat.pow 2 power ≤ quotient → Nat.pow 2 power ≤ units)
      (most : ∀ {power}, 53 ≤ power → quotient < Nat.pow 2 power → units ≤ Nat.pow 2 power) :
      RoundsTo negative quotient number

theorem view_infinity (negative : Bool) : (infinity negative).view = .infinite negative := by
  rcases @fields_ofMagnitude negative 2047 0 (by decide) (by decide)
    with ⟨exponent, fraction, sign⟩
  rw [infinity, ← Nat.add_zero (2047 * fractionCount), view, exponent, fraction, sign, if_pos rfl,
    if_pos rfl]

/-- How the significand of a rounded ratio and its step belong to the quotient. -/
structure IsRounded (quotient shift significand : Nat) : Prop where
  below : quotient < 2 * fractionCount * Nat.pow 2 shift
  reached : shift = 0 ∨ fractionCount * Nat.pow 2 shift ≤ quotient
  lower : quotient / Nat.pow 2 shift ≤ significand
  upper : significand ≤ quotient / Nat.pow 2 shift + 1

namespace IsRounded

variable {quotient shift significand : Nat}
  (rounded : IsRounded quotient shift significand)

include rounded

theorem most : significand ≤ 2 * fractionCount := by
  have step : 0 < Nat.pow 2 shift := Nat.two_pow_pos shift
  have := (Nat.div_lt_iff_lt_mul step).mpr rounded.below
  have := rounded.upper
  omega

theorem least : shift = 0 ∨ fractionCount ≤ significand := by
  have step : 0 < Nat.pow 2 shift := Nat.two_pow_pos shift
  refine rounded.reached.imp_right fun reached => Nat.le_trans ?_ rounded.lower
  exact (Nat.le_div_iff_mul_le step).mpr reached

/-- A number with few digits in base two that is no more than the quotient is kept below. -/
theorem mul_pow_le
    {digits power : Nat}
    (few : digits ≤ 2 * fractionCount)
    (small : digits * Nat.pow 2 power ≤ quotient) :
    digits * Nat.pow 2 power ≤ significand * Nat.pow 2 shift := by
  have step : 0 < Nat.pow 2 shift := Nat.two_pow_pos shift
  rcases Nat.lt_or_ge power shift with finer | coarser
  · have nonzero : shift ≠ 0 := by omega
    rcases Nat.exists_eq_add_of_lt finer with ⟨more, rfl⟩
    calc digits * 2 ^ power ≤ 2 * fractionCount * 2 ^ power := Nat.mul_le_mul_right _ few
      _ = fractionCount * 2 ^ (power + 1) := by
        rw [Nat.pow_succ, Nat.mul_comm 2, Nat.mul_assoc, Nat.mul_comm 2]
      _ ≤ fractionCount * 2 ^ (power + more + 1) :=
        Nat.mul_le_mul_left _ (Nat.pow_le_pow_right (by decide) (by omega))
      _ ≤ significand * 2 ^ (power + more + 1) :=
        Nat.mul_le_mul_right _ (rounded.least.resolve_left nonzero)
  · rcases Nat.exists_eq_add_of_le coarser with ⟨more, rfl⟩
    have split : digits * 2 ^ (shift + more) = digits * 2 ^ more * 2 ^ shift := by
      rw [Nat.add_comm, Nat.pow_add, Nat.mul_assoc]
    simp only [Nat.pow_eq] at small step ⊢
    rw [split] at small ⊢
    have whole := (Nat.le_div_iff_mul_le step).mpr small
    exact Nat.mul_le_mul_right _ (Nat.le_trans whole rounded.lower)

end IsRounded

theorem isRounded_divideToEven (numerator denominator : Nat) :
    IsRounded (numerator / denominator) ((numerator / denominator).log2 - 52)
      (divideToEven numerator (denominator * Nat.pow 2 ((numerator / denominator).log2 - 52))) := by
  have lower := le_divideToEven numerator
    (denominator * Nat.pow 2 ((numerator / denominator).log2 - 52))
  have upper := divideToEven_le numerator
    (denominator * Nat.pow 2 ((numerator / denominator).log2 - 52))
  rw [← Nat.div_div_eq_div_mul] at lower upper
  generalize numerator / denominator = quotient at lower upper ⊢
  refine ⟨?below, ?reached, lower, upper⟩
  case below =>
    calc quotient < 2 ^ (quotient.log2 + 1) := Nat.lt_log2_self
      _ ≤ 2 ^ (53 + (quotient.log2 - 52)) := Nat.pow_le_pow_right (by decide) (by omega)
      _ = 2 * fractionCount * 2 ^ (quotient.log2 - 52) := Nat.pow_add 2 53 _
  case reached =>
    by_cases short : quotient.log2 ≤ 52
    · exact .inl (by omega)
    · have nonzero : quotient ≠ 0 := by
        rintro rfl
        exact short (by decide)
      refine .inr ?_
      calc fractionCount * 2 ^ (quotient.log2 - 52) = 2 ^ (52 + (quotient.log2 - 52)) :=
            (Nat.pow_add 2 52 _).symm
        _ = 2 ^ quotient.log2 := by rw [Nat.add_sub_cancel' (by omega)]
        _ ≤ quotient := Nat.log2_self_le nonzero

/-- The significand and the step of a rounded ratio; beyond the greatest number it is infinite. -/
theorem exists_isRounded (negative : Bool) (numerator denominator : Nat) :
    ∃ shift significand,
      (numerator * unitsPerOne / denominator).log2 - 52 = shift ∧
        divideToEven (numerator * unitsPerOne) (denominator * Nat.pow 2 shift) = significand ∧
        IsRounded (numerator * unitsPerOne / denominator) shift significand ∧
        (ofRatio negative numerator denominator).view =
          if shift * fractionCount + significand < 2047 * fractionCount then
            .finite negative (significand * Nat.pow 2 shift)
          else .infinite negative := by
  have rounded := isRounded_divideToEven (numerator * unitsPerOne) denominator
  refine ⟨_, _, rfl, rfl, rounded, ?_⟩
  rw [ofRatio]
  split
  next finite => exact view_ofMagnitude_of_le negative rounded.most rounded.least finite
  next => exact view_infinity negative

theorem roundsTo_ofRatio (negative : Bool) (numerator denominator : Nat) :
    RoundsTo negative (numerator * unitsPerOne / denominator)
      (ofRatio negative numerator denominator) := by
  rcases exists_isRounded negative numerator denominator with
    ⟨shift, significand, _, _, rounded, view⟩
  generalize numerator * unitsPerOne / denominator = quotient at rounded
  split at view
  next finite =>
    refine .finite view ?least ?most
    case least =>
      intro power reached
      have kept : 1 * Nat.pow 2 power ≤ significand * Nat.pow 2 shift :=
        rounded.mul_pow_le (by decide) (by rwa [Nat.one_mul])
      rwa [Nat.one_mul] at kept
    case most =>
      intro power enough small
      have range : 53 + shift ≤ power := by
        rcases rounded.reached with rfl | large
        · exact enough
        · have less : 2 ^ (52 + shift) < 2 ^ power := by
            rw [Nat.pow_add]
            exact Nat.lt_of_le_of_lt large small
          have := (Nat.pow_lt_pow_iff_right (by decide)).mp less
          omega
      calc significand * 2 ^ shift ≤ 2 * fractionCount * 2 ^ shift :=
            Nat.mul_le_mul_right _ rounded.most
        _ = 2 ^ (53 + shift) := (Nat.pow_add 2 53 shift).symm
        _ ≤ 2 ^ power := Nat.pow_le_pow_right (by decide) range
  next infinite =>
    have range : 2045 ≤ shift := by
      have most := rounded.most
      simp only [fractionCount] at infinite most
      omega
    refine .infinite ?_ view
    intro power small
    calc 2 ^ power ≤ 2 ^ (52 + shift) := Nat.pow_le_pow_right (by decide) (by omega)
      _ = fractionCount * 2 ^ shift := Nat.pow_add 2 52 shift
      _ ≤ quotient := rounded.reached.resolve_left (by omega)

/-- A ratio is not rounded below a number with few digits in base two. -/
theorem le_of_view_ofRatio
    {negative sign : Bool}
    {numerator denominator units digits power : Nat}
    (view : (ofRatio negative numerator denominator).view = .finite sign units)
    (few : digits ≤ 2 * fractionCount)
    (small : digits * Nat.pow 2 power ≤ numerator * unitsPerOne / denominator) :
    digits * Nat.pow 2 power ≤ units := by
  rcases exists_isRounded negative numerator denominator with
    ⟨shift, significand, _, _, rounded, same⟩
  rw [view] at same
  split at same
  next =>
    cases same
    exact rounded.mul_pow_le few small
  next => cases same

end RoverLink.Decimal.Binary64
