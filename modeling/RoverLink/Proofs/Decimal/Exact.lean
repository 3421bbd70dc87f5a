import RoverLink.Decimal.Binary64

/-!
# Numbers that are not rounded

A ratio that is a significand of 53 bits times a power of two is a binary64
number, and `ofRatio` gives it exactly (`view_ofRatio`).  Every integer up to
the power 53 of two is such a ratio, so it is kept (`toInt?_ofInt`).
-/

namespace RoverLink.Decimal.Binary64

/-- A significand of 53 bits, and a power of two that is in the range of the exponents. -/
structure IsNormal (significand shift : Nat) : Prop where
  least : fractionCount ≤ significand
  below : significand < 2 * fractionCount
  shift_le : shift ≤ 2045

/-! ### The fields of a number -/

theorem isFinite_iff (number : Binary64) :
    number.isFinite = true ↔ ∃ negative units, number.view = .finite negative units := by
  rw [isFinite, view, decide_eq_true_eq]
  split
  next infinite =>
    refine ⟨fun finite => (finite infinite).elim, ?_⟩
    rintro ⟨negative, units, same⟩
    split at same <;> simp at same
  next finite => exact ⟨fun _ => ⟨_, _, rfl⟩, fun _ => finite⟩

theorem toNat_bits_ofMagnitude
    (negative : Bool)
    {magnitude : Nat}
    (small : magnitude < 0x8000000000000000) :
    (ofMagnitude negative magnitude).bits.toNat =
      (if negative then 0x8000000000000000 else 0) + magnitude := by
  rw [ofMagnitude, UInt64.toNat_ofNat']
  apply Nat.mod_eq_of_lt
  split <;> omega

section

variable (negative : Bool) {exponent fraction : Nat}
  (range : exponent < 0x800)
  (fits : fraction < fractionCount)

include range fits

/-- The fields of a number are those that its bits were put together from. -/
theorem fields_ofMagnitude :
    (ofMagnitude negative (exponent * fractionCount + fraction)).exponentField = exponent ∧
      (ofMagnitude negative (exponent * fractionCount + fraction)).fractionField = fraction ∧
        (ofMagnitude negative (exponent * fractionCount + fraction)).isNegative = negative := by
  have small : exponent * fractionCount + fraction < 0x8000000000000000 := by
    simp only [fractionCount] at fits ⊢
    omega
  have bits := toNat_bits_ofMagnitude negative small
  simp only [fractionCount] at fits small bits
  rw [exponentField, fractionField, isNegative]
  simp only [fractionCount, bits]
  cases negative <;> simp <;> omega

theorem view_ofMagnitude_of_fields (finite : exponent ≠ 2047) :
    (ofMagnitude negative (exponent * fractionCount + fraction)).view =
      .finite negative (unitsOf exponent fraction) := by
  rcases fields_ofMagnitude negative range fits with ⟨ofExponent, ofFraction, sign⟩
  rw [view, ofExponent, ofFraction, sign, if_neg finite]

end

/-- The fields of a number in normal form count its significand in units. -/
theorem view_ofMagnitude
    (negative : Bool)
    {significand shift : Nat}
    (normal : IsNormal significand shift) :
    (ofMagnitude negative (shift * fractionCount + significand)).view =
      .finite negative (significand * Nat.pow 2 shift) := by
  rcases normal with ⟨least, below, range⟩
  have split : shift * fractionCount + significand =
      (shift + 1) * fractionCount + (significand - fractionCount) := by
    rw [Nat.succ_mul]
    omega
  rw [split, view_ofMagnitude_of_fields negative (by omega) (by omega) (by omega), unitsOf,
    if_neg (by omega), Nat.add_sub_cancel, Nat.add_sub_cancel' least]

/-! ### Ratios -/

theorem divideToEven_mul
    {denominator : Nat}
    (positive : 0 < denominator)
    (quotient : Nat) :
    divideToEven (denominator * quotient) denominator = quotient := by
  simp [divideToEven, positive]

theorem log2_of_isNormal
    {significand shift : Nat}
    (normal : IsNormal significand shift) :
    (significand * Nat.pow 2 shift).log2 = 52 + shift := by
  have least : 2 ^ 52 ≤ significand := normal.least
  have below : significand < 2 ^ 53 := normal.below
  have positive : 0 < 2 ^ shift := Nat.two_pow_pos shift
  rw [Nat.pow_eq]
  apply (Nat.log2_eq_iff (Nat.mul_ne_zero (by omega) (by omega))).mpr
  constructor
  · rw [Nat.pow_add]
    exact Nat.mul_le_mul_right _ least
  · rw [show 52 + shift + 1 = 53 + shift by omega, Nat.pow_add]
    exact Nat.mul_lt_mul_of_pos_right below positive

/-- A ratio in normal form is not rounded. -/
theorem view_ofRatio
    (negative : Bool)
    {numerator denominator significand shift : Nat}
    (positive : 0 < denominator)
    (normal : IsNormal significand shift)
    (same : numerator * unitsPerOne = denominator * (significand * Nat.pow 2 shift)) :
    (ofRatio negative numerator denominator).view =
      .finite negative (significand * Nat.pow 2 shift) := by
  have shifted : (numerator * unitsPerOne / denominator).log2 - 52 = shift := by
    rw [same, Nat.mul_div_cancel_left _ positive, log2_of_isNormal normal]
    omega
  have exactly : divideToEven (numerator * unitsPerOne) (denominator * Nat.pow 2 shift) =
      significand := by
    have scaled : numerator * unitsPerOne = denominator * Nat.pow 2 shift * significand := by
      rw [same, Nat.mul_comm significand, Nat.mul_assoc]
    rw [scaled]
    exact divideToEven_mul (Nat.mul_pos positive (Nat.two_pow_pos shift)) significand
  have range : shift * fractionCount + significand < 2047 * fractionCount := by
    have shift_le := normal.shift_le
    have below := normal.below
    simp only [fractionCount] at below ⊢
    omega
  simp only [ofRatio, shifted, exactly]
  rw [if_pos range]
  exact view_ofMagnitude negative normal

/-! ### Integers -/

/-- The integers up to this one, the power 53 of two, are numbers without rounding. -/
def greatestWhole : Nat :=
  0x20000000000000

/-- The units in one are a power of two, whose exponent is not to be computed with. -/
theorem exists_unitsPerOne_eq :
    ∃ exponent, exponent = 1074 ∧ unitsPerOne = Nat.pow 2 exponent :=
  ⟨_, rfl, by delta unitsPerOne; rfl⟩

theorem unitsPerOne_pos : 0 < unitsPerOne := by
  rcases exists_unitsPerOne_eq with ⟨exponent, _, units⟩
  rw [units]
  exact Nat.two_pow_pos exponent

theorem exists_isNormal
    {magnitude : Nat}
    (positive : 0 < magnitude)
    (small : magnitude ≤ greatestWhole) :
    ∃ significand shift, IsNormal significand shift ∧
      magnitude * unitsPerOne = significand * Nat.pow 2 shift := by
  rcases exists_unitsPerOne_eq with ⟨exponent, value, units⟩
  simp only [units, Nat.pow_eq]
  by_cases greatest : magnitude = greatestWhole
  · refine ⟨fractionCount, exponent + 1, ⟨Nat.le_refl _, by decide, by omega⟩, ?_⟩
    rw [greatest, show fractionCount = 2 ^ 52 from rfl, show greatestWhole = 2 ^ 53 from rfl,
      ← Nat.pow_add, ← Nat.pow_add, show 53 + exponent = 52 + (exponent + 1) by omega]
  · have least := Nat.log2_self_le (Nat.ne_of_gt positive)
    have below : magnitude < 2 ^ (magnitude.log2 + 1) := Nat.lt_log2_self
    have range : magnitude.log2 ≤ 52 := by
      have less : magnitude < 2 ^ 53 := Nat.lt_of_le_of_ne small greatest
      have := (Nat.log2_lt (Nat.ne_of_gt positive)).mpr less
      omega
    refine ⟨magnitude * 2 ^ (52 - magnitude.log2), 1022 + magnitude.log2, ⟨?_, ?_, by omega⟩, ?_⟩
    · calc fractionCount = 2 ^ magnitude.log2 * 2 ^ (52 - magnitude.log2) := by
            rw [← Nat.pow_add, Nat.add_sub_cancel' range]
            rfl
        _ ≤ magnitude * 2 ^ (52 - magnitude.log2) := Nat.mul_le_mul_right _ least
    · calc magnitude * 2 ^ (52 - magnitude.log2)
          < 2 ^ (magnitude.log2 + 1) * 2 ^ (52 - magnitude.log2) :=
            Nat.mul_lt_mul_of_pos_right below (Nat.two_pow_pos _)
        _ = 2 * fractionCount := by
            rw [← Nat.pow_add, show magnitude.log2 + 1 + (52 - magnitude.log2) = 53 by omega]
            rfl
    · rw [Nat.mul_assoc, ← Nat.pow_add,
        show 52 - magnitude.log2 + (1022 + magnitude.log2) = exponent by omega]

/-- Zero has no significand in normal form, but it is not rounded either. -/
theorem view_ofRatio_zero (negative : Bool) :
    (ofRatio negative 0 1).view = .finite negative 0 := by
  have zero : ofRatio negative 0 1 = ofMagnitude negative 0 := by
    simp [ofRatio, divideToEven, fractionCount]
  rw [zero]
  cases negative <;> decide

theorem toInt?_of_view
    {number : Binary64}
    {negative : Bool}
    {magnitude : Nat}
    (view : number.view = .finite negative (magnitude * unitsPerOne)) :
    number.toInt? = some (if negative then -(magnitude : Int) else magnitude) := by
  simp only [toInt?, view, Nat.mul_mod_left, if_true, Nat.mul_div_cancel _ unitsPerOne_pos]

theorem toInt?_ofInt
    {integer : Int}
    (small : integer.natAbs ≤ greatestWhole) :
    (ofInt integer).toInt? = some integer := by
  have view : (ofInt integer).view =
      .finite (integer < 0) (integer.natAbs * unitsPerOne) := by
    by_cases zero : integer = 0
    · subst zero
      exact (view_ofRatio_zero _).trans (by rw [Int.natAbs_zero, Nat.zero_mul])
    · rcases exists_isNormal (Int.natAbs_pos.mpr zero) small with
        ⟨significand, shift, normal, same⟩
      rw [same]
      exact view_ofRatio _ Nat.one_pos normal (by rw [Nat.one_mul, same])
  rw [toInt?_of_view view]
  congr 1
  by_cases negative : integer < 0
  · simp only [negative, decide_true, if_true]
    omega
  · simp only [negative, decide_false, Bool.false_eq_true, if_false]
    omega

/-- Zero with a minus sign is the integer zero. -/
theorem toInt?_ofRatio_zero (negative : Bool) : (ofRatio negative 0 1).toInt? = some 0 := by
  have view : (ofRatio negative 0 1).view = .finite negative (0 * unitsPerOne) := by
    rw [Nat.zero_mul, view_ofRatio_zero]
  rw [toInt?_of_view view]
  cases negative <;> rfl

end RoverLink.Decimal.Binary64
