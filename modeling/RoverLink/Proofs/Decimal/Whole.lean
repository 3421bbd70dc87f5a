import RoverLink.Proofs.Decimal.Rounding

/-!
# Integers as numbers

An integer keeps its 53 leading digits in base two when it becomes a number, and
the digits behind them are rounded, a tie to the even one (`roundedWhole`).  What
comes of it is the nearest of all integers that are numbers
(`natAbs_sub_rounded_le`), so an integer that is a number stays as it is.
-/

namespace RoverLink.Decimal.Binary64

/-! ### Rounding to multiples -/

theorem divideToEven_mul_mul
    (numerator denominator : Nat)
    {factor : Nat}
    (positive : 0 < factor) :
    divideToEven (numerator * factor) (denominator * factor) =
      divideToEven numerator denominator := by
  have twice : 2 * (numerator % denominator * factor) =
      2 * (numerator % denominator) * factor := (Nat.mul_assoc _ _ _).symm
  simp only [divideToEven, Nat.mul_div_mul_right _ _ positive, Nat.mul_mod_mul_right, twice,
    Nat.mul_lt_mul_right positive]

theorem isNearest_divideToEven
    (numerator : Nat)
    {denominator : Nat}
    (positive : 0 < denominator) :
    IsNearest numerator denominator (divideToEven numerator denominator) := by
  have whole := Nat.div_add_mod numerator denominator
  have less := Nat.mod_lt numerator positive
  rw [Nat.mul_comm denominator] at whole
  have next : (numerator / denominator + 1) * denominator =
      numerator / denominator * denominator + denominator := Nat.succ_mul _ _
  rw [divideToEven]
  split
  next => constructor <;> omega
  next =>
    split
    next => constructor <;> omega
    next =>
      rcases Nat.mod_two_eq_zero_or_one (numerator / denominator) with even | odd
      · rw [even, Nat.add_zero]
        constructor <;> omega
      · rw [odd]
        constructor <;> omega

/-- The unit of the last of the 53 leading digits of a natural number. -/
def stepOf (magnitude : Nat) : Nat :=
  Nat.pow 2 (magnitude.log2 - 52)

theorem stepOf_pos (magnitude : Nat) : 0 < stepOf magnitude :=
  Nat.two_pow_pos _

/-- A natural number with its 53 leading digits, rounded to the nearest, a tie to the even one. -/
def roundedWhole (magnitude : Nat) : Nat :=
  divideToEven magnitude (stepOf magnitude) * stepOf magnitude

/-- An integer with the 53 leading digits of its absolute value. -/
def rounded (integer : Int) : Int :=
  if integer < 0 then -(roundedWhole integer.natAbs : Int) else roundedWhole integer.natAbs

/-! ### The number of an integer -/

theorem log2_mul_pow
    {magnitude : Nat}
    (nonzero : magnitude ≠ 0)
    (power : Nat) :
    (magnitude * Nat.pow 2 power).log2 = magnitude.log2 + power := by
  rw [Nat.pow_eq]
  have least := Nat.log2_self_le nonzero
  have below : magnitude < 2 ^ (magnitude.log2 + 1) := Nat.lt_log2_self
  have positive : 0 < 2 ^ power := Nat.two_pow_pos power
  apply (Nat.log2_eq_iff (Nat.mul_ne_zero nonzero (by omega))).mpr
  constructor
  · rw [Nat.pow_add]
    exact Nat.mul_le_mul_right _ least
  · rw [show magnitude.log2 + power + 1 = magnitude.log2 + 1 + power by omega, Nat.pow_add]
    exact Nat.mul_lt_mul_of_pos_right below positive

theorem roundedWhole_of_log2_le
    {magnitude : Nat}
    (small : magnitude.log2 ≤ 52) :
    roundedWhole magnitude = magnitude := by
  have one : stepOf magnitude = 1 := congrArg (Nat.pow 2) (Nat.sub_eq_zero_of_le small)
  have exactly : divideToEven (1 * magnitude) 1 = magnitude :=
    divideToEven_mul (by decide) magnitude
  rw [Nat.one_mul] at exactly
  rw [roundedWhole, one, exactly, Nat.mul_one]

theorem view_ofRatio_of_le_greatestWhole
    (negative : Bool)
    {magnitude : Nat}
    (small : magnitude ≤ greatestWhole) :
    (ofRatio negative magnitude 1).view = .finite negative (magnitude * unitsPerOne) := by
  by_cases zero : magnitude = 0
  · subst zero
    rw [view_ofRatio_zero, Nat.zero_mul]
  · rcases exists_isNormal (Nat.pos_of_ne_zero zero) small with
      ⟨significand, shift, normal, same⟩
    rw [same]
    exact view_ofRatio _ Nat.one_pos normal (by rw [Nat.one_mul, same])

/-- A natural number of a word becomes the number of its leading digits. -/
theorem view_ofRatio_whole
    (negative : Bool)
    {magnitude : Nat}
    (fits : magnitude < 0x10000000000000000) :
    (ofRatio negative magnitude 1).view =
      .finite negative (roundedWhole magnitude * unitsPerOne) := by
  by_cases short : magnitude.log2 ≤ 52
  · have small : magnitude < 2 ^ 53 :=
      Nat.lt_of_lt_of_le Nat.lt_log2_self (Nat.pow_le_pow_right (by decide) (by omega))
    rw [roundedWhole_of_log2_le short]
    exact view_ofRatio_of_le_greatestWhole negative (Nat.le_of_lt small)
  have nonzero : magnitude ≠ 0 := by
    rintro rfl
    exact short (by decide)
  rcases exists_unitsPerOne_eq with ⟨exponent, value, units⟩
  rcases exists_isRounded negative magnitude 1 with
    ⟨shift, significand, shifted, quotient, isRounded, view⟩
  rw [Nat.div_one, units, log2_mul_pow nonzero] at shifted
  have bits : magnitude.log2 < 64 := (Nat.log2_lt nonzero).mpr fits
  have most := isRounded.most
  rw [if_pos (by simp only [fractionCount] at most ⊢; omega)] at view
  -- The step in units is the step of the integer, so both count the same significand.
  have step : Nat.pow 2 shift = stepOf magnitude * Nat.pow 2 exponent := by
    rw [← shifted, Nat.sub_add_comm (Nat.le_of_not_le short)]
    exact Nat.pow_add 2 _ exponent
  have positive : 0 < Nat.pow 2 exponent := Nat.two_pow_pos exponent
  rw [Nat.one_mul, units, step, divideToEven_mul_mul _ _ positive] at quotient
  rw [view, step, ← quotient, ← Nat.mul_assoc, units]
  rfl

/-! ### The nearest integer that is a number -/

/-- Whether an integer is a number without rounding. -/
def IsWhole (integer : Int) : Prop :=
  ∃ number : Binary64, number.toInt? = some integer

theorem isWhole_of_le_greatestWhole
    {integer : Int}
    (small : integer.natAbs ≤ greatestWhole) :
    IsWhole integer :=
  ⟨ofInt integer, toInt?_ofInt small⟩

/-- The units of an integer are a significand of 53 bits times a power of two. -/
theorem IsWhole.exists_units_eq
    {integer : Int}
    (isWhole : IsWhole integer) :
    ∃ significand shift,
      significand < 2 * fractionCount ∧
        integer.natAbs * unitsPerOne = significand * Nat.pow 2 shift := by
  rcases isWhole with ⟨number, whole⟩
  rw [toInt?] at whole
  split at whole
  next negative units view =>
    split at whole
    next divides =>
      have magnitude : integer.natAbs = units / unitsPerOne := by
        cases whole
        split
        · rw [Int.natAbs_neg, Int.natAbs_natCast]
        · rw [Int.natAbs_natCast]
      rcases exists_units_eq_of_view view with ⟨significand, shift, fits, same⟩
      refine ⟨significand, shift, fits, ?_⟩
      rw [magnitude, ← same]
      exact Nat.div_mul_cancel (Nat.dvd_of_mod_eq_zero divides)
    next => cases whole
  next => cases whole

/-- An integer that is a number is a multiple of every step that it has 53 digits above. -/
theorem IsWhole.pow_dvd
    {integer : Int}
    (isWhole : IsWhole integer)
    {power : Nat}
    (large : fractionCount * Nat.pow 2 power ≤ integer.natAbs) :
    Nat.pow 2 power ∣ integer.natAbs := by
  rw [Nat.pow_eq] at large ⊢
  rcases isWhole.exists_units_eq with ⟨significand, shift, small, same⟩
  rcases exists_unitsPerOne_eq with ⟨exponent, _, units⟩
  rw [units, Nat.pow_eq, Nat.pow_eq] at same
  have positive : 0 < 2 ^ exponent := Nat.two_pow_pos exponent
  have less : 2 ^ (52 + power + exponent) < 2 ^ (53 + shift) := by
    calc 2 ^ (52 + power + exponent) = fractionCount * 2 ^ power * 2 ^ exponent := by
          rw [Nat.pow_add, Nat.pow_add]
          rfl
      _ ≤ integer.natAbs * 2 ^ exponent := Nat.mul_le_mul_right _ large
      _ = significand * 2 ^ shift := same
      _ < 2 * fractionCount * 2 ^ shift :=
        Nat.mul_lt_mul_of_pos_right small (Nat.two_pow_pos shift)
      _ = 2 ^ (53 + shift) := (Nat.pow_add 2 53 shift).symm
  have finer : power + exponent ≤ shift := by
    have := (Nat.pow_lt_pow_iff_right (by decide)).mp less
    omega
  rcases Nat.exists_eq_add_of_le finer with ⟨more, rfl⟩
  refine ⟨significand * 2 ^ more, Nat.eq_of_mul_eq_mul_right positive ?_⟩
  rw [same, Nat.pow_add, Nat.pow_add, Nat.mul_right_comm (2 ^ power), ← Nat.mul_assoc,
    Nat.mul_left_comm]

/-- No multiple of the step is nearer than the rounded number. -/
theorem natAbs_sub_roundedWhole_le_of_dvd
    (magnitude : Nat)
    {multiple : Nat}
    (divides : stepOf magnitude ∣ multiple) :
    ((magnitude : Int) - roundedWhole magnitude).natAbs ≤
      ((magnitude : Int) - multiple).natAbs := by
  rcases divides with ⟨count, rfl⟩
  have nearest := isNearest_divideToEven magnitude (stepOf_pos magnitude)
  rw [roundedWhole]
  generalize stepOf magnitude = step at nearest ⊢
  generalize divideToEven magnitude step = quotient at nearest ⊢
  rcases nearest with ⟨lower, upper, _⟩
  rw [Nat.mul_comm step]
  rcases Nat.lt_trichotomy count quotient with less | rfl | more
  · have below := Nat.mul_le_mul_right step (Nat.succ_le_of_lt less)
    rw [Nat.succ_mul] at below
    omega
  · exact Nat.le_refl _
  · have above := Nat.mul_le_mul_right step (Nat.succ_le_of_lt more)
    rw [Nat.succ_mul] at above
    omega

theorem natAbs_sub_roundedWhole_le
    (magnitude : Nat)
    {other : Int}
    (isWhole : IsWhole other) :
    ((magnitude : Int) - roundedWhole magnitude).natAbs ≤
      ((magnitude : Int) - other.natAbs).natAbs := by
  by_cases short : magnitude.log2 ≤ 52
  · rw [roundedWhole_of_log2_le short]
    omega
  by_cases large : fractionCount * 2 ^ (magnitude.log2 - 52) ≤ other.natAbs
  · exact natAbs_sub_roundedWhole_le_of_dvd magnitude (isWhole.pow_dvd large)
  · -- The least number with as many digits lies between the other one and this one.
    have least : fractionCount * 2 ^ (magnitude.log2 - 52) ≤ magnitude := by
      have nonzero : magnitude ≠ 0 := by
        rintro rfl
        exact short (by decide)
      calc fractionCount * 2 ^ (magnitude.log2 - 52) = 2 ^ (52 + (magnitude.log2 - 52)) :=
            (Nat.pow_add 2 52 _).symm
        _ = 2 ^ magnitude.log2 := by rw [Nat.add_sub_cancel' (Nat.le_of_not_le short)]
        _ ≤ magnitude := Nat.log2_self_le nonzero
    have nearer := natAbs_sub_roundedWhole_le_of_dvd magnitude
      (Nat.dvd_mul_left (stepOf magnitude) fractionCount)
    have same : fractionCount * stepOf magnitude = fractionCount * 2 ^ (magnitude.log2 - 52) := rfl
    rw [same] at nearer
    omega

/-- No integer that is a number is nearer than the rounded one. -/
theorem natAbs_sub_rounded_le
    (integer : Int)
    {other : Int}
    (isWhole : IsWhole other) :
    (integer - rounded integer).natAbs ≤ (integer - other).natAbs := by
  have nearest := natAbs_sub_roundedWhole_le integer.natAbs isWhole
  rw [rounded]
  split <;> omega

theorem rounded_eq_of_isWhole
    {integer : Int}
    (isWhole : IsWhole integer) :
    rounded integer = integer := by
  have nearest := natAbs_sub_rounded_le integer isWhole
  omega

/-! ### Rounding at the ends of a word -/

theorem stepOf_eq
    {magnitude power : Nat}
    (least : Nat.pow 2 (52 + power) ≤ magnitude)
    (below : magnitude < Nat.pow 2 (53 + power)) :
    stepOf magnitude = Nat.pow 2 power := by
  rw [Nat.pow_eq] at least below
  have nonzero : magnitude ≠ 0 := by
    have := Nat.two_pow_pos (52 + power)
    omega
  have log : magnitude.log2 = 52 + power :=
    (Nat.log2_eq_iff nonzero).mpr ⟨least, by rwa [show 52 + power + 1 = 53 + power by omega]⟩
  rw [stepOf, log, Nat.add_sub_cancel_left]

/-- A rounded natural number is less than half as large again. -/
theorem two_mul_roundedWhole_le (magnitude : Nat) :
    2 * roundedWhole magnitude ≤ 3 * magnitude := by
  by_cases short : magnitude.log2 ≤ 52
  · rw [roundedWhole_of_log2_le short]
    omega
  · have nonzero : magnitude ≠ 0 := by
      rintro rfl
      exact short (by decide)
    have step : stepOf magnitude ≤ magnitude :=
      Nat.le_trans (Nat.pow_le_pow_right (by decide) (Nat.sub_le _ _)) (Nat.log2_self_le nonzero)
    have nearest := isNearest_divideToEven magnitude (stepOf_pos magnitude)
    rw [roundedWhole]
    have := nearest.lower
    omega

section

variable {magnitude : Nat} (fits : magnitude < 0x10000000000000000)

include fits

/-- Where the rounding of a number of 64 bits can reach the sign bit, its step is known. -/
theorem roundedWhole_cases :
    (magnitude < 0x4000000000000000 ∧ roundedWhole magnitude < 0x8000000000000000) ∨
      ∃ step quotient,
        (0x4000000000000000 ≤ magnitude ∧ magnitude < 0x8000000000000000 ∧ step = 1024 ∨
          0x8000000000000000 ≤ magnitude ∧ step = 2048) ∧
        roundedWhole magnitude = quotient * step ∧ IsNearest magnitude step quotient := by
  rcases Nat.lt_or_ge magnitude 0x4000000000000000 with small | large
  · have := two_mul_roundedWhole_le magnitude
    exact .inl ⟨small, by omega⟩
  · refine .inr ⟨stepOf magnitude, _, ?_, rfl, isNearest_divideToEven _ (stepOf_pos _)⟩
    rcases Nat.lt_or_ge magnitude 0x8000000000000000 with below | above
    · have step : stepOf magnitude = Nat.pow 2 10 := stepOf_eq large below
      exact .inl ⟨large, below, step⟩
    · have step : stepOf magnitude = Nat.pow 2 11 := stepOf_eq above fits
      exact .inr ⟨above, step⟩

theorem roundedWhole_lt_iff :
    roundedWhole magnitude < 0x8000000000000000 ↔ magnitude ≤ 0x8000000000000000 - 513 := by
  rcases roundedWhole_cases fits with small | ⟨step, quotient, range, same, lower, upper, ofOdd⟩
  · omega
  · rw [same]
    rcases range with ⟨_, _, rfl⟩ | ⟨_, rfl⟩ <;> omega

theorem roundedWhole_le_iff :
    roundedWhole magnitude ≤ 0x8000000000000000 ↔ magnitude ≤ 0x8000000000000000 + 1024 := by
  rcases roundedWhole_cases fits with small | ⟨step, quotient, range, same, lower, upper, ofOdd⟩
  · omega
  · rw [same]
    rcases range with ⟨_, _, rfl⟩ | ⟨_, rfl⟩ <;> omega

end

/-- The rounded integer fits in 64 bits up to half a step beyond them. -/
theorem rounded_fits_iff
    {integer : Int}
    (fits : integer.natAbs < 0x10000000000000000) :
    (-0x8000000000000000 ≤ rounded integer ∧ rounded integer < 0x8000000000000000) ↔
      -0x8000000000000000 - 1024 ≤ integer ∧ integer ≤ 0x8000000000000000 - 513 := by
  have below := roundedWhole_lt_iff fits
  have most := roundedWhole_le_iff fits
  rw [rounded]
  split <;> omega

end RoverLink.Decimal.Binary64
