import RoverLink.Motor.Config
import RoverLink.Proofs.Command.Grammar
import RoverLink.Proofs.Decimal.Rounding

/-!
# The encoder resolution on the wire

The steps of an encoder are checked as a number, and uploaded as the nearest
integer that 64 bits hold.  So a configuration that passes its check uploads a
real resolution exactly if its steps are at least one half and less than the
power 63 of two (`uploads_resolution`).
-/

namespace RoverLink

open Decimal Decimal.Binary64

/-! ### Rounding to 64 bits -/

namespace Decimal.Binary64

/-- A positive finite number is a positive count of units. -/
theorem exists_view_of_isPositive
    {number : Binary64}
    (finite : number.isFinite = true)
    (positive : number.isPositive = true) :
    ∃ units, number.view = .finite false units ∧ 0 < units := by
  obtain ⟨negative, units, view⟩ := (isFinite_iff number).mp finite
  simp only [isPositive, view, Bool.and_eq_true, Bool.not_eq_true', decide_eq_true_eq] at positive
  obtain ⟨rfl, counted⟩ := positive
  exact ⟨units, view, counted⟩

/-- The integer nearest to a count of units, half a unit rounded up. -/
def nearestWhole (units : Nat) : Nat :=
  (2 * units + unitsPerOne) / (2 * unitsPerOne)

/-- A count of units is rounded to a number that is reached half a unit earlier. -/
theorem le_nearestWhole_iff (whole units : Nat) :
    whole ≤ nearestWhole units ↔ 2 * (whole * unitsPerOne) ≤ 2 * units + unitsPerOne := by
  have positive : 0 < 2 * unitsPerOne := Nat.mul_pos (by decide) unitsPerOne_pos
  rw [nearestWhole, Nat.le_div_iff_mul_le positive, Nat.mul_left_comm]

/-- No integer is more than half a unit away from what is rounded to it. -/
theorem natAbs_nearestWhole_sub_le (units : Nat) :
    2 * ((nearestWhole units : Int) * unitsPerOne - units).natAbs ≤ unitsPerOne := by
  have lower := (le_nearestWhole_iff (nearestWhole units) units).mp (Nat.le_refl _)
  have upper := (le_nearestWhole_iff (nearestWhole units + 1) units).not.mp (by omega)
  rw [Nat.add_mul, Nat.one_mul] at upper
  rw [← Int.natCast_mul]
  generalize nearestWhole units * unitsPerOne = product at lower upper ⊢
  omega

/-- Digits that stay below a power of two keep a distance from it. -/
theorem add_pow_le_of_lt
    {significand shift bits top : Nat}
    (fits : significand < Nat.pow 2 bits)
    (below : significand * Nat.pow 2 shift < Nat.pow 2 (bits + top)) :
    significand * Nat.pow 2 shift + Nat.pow 2 top ≤ Nat.pow 2 (bits + top) := by
  simp only [Nat.pow_eq, Nat.pow_add] at fits below ⊢
  rcases Nat.le_total shift top with coarse | fine
  · calc significand * 2 ^ shift + 2 ^ top ≤ significand * 2 ^ top + 2 ^ top :=
          Nat.add_le_add_right (Nat.mul_le_mul_left _ (Nat.pow_le_pow_right (by decide) coarse)) _
      _ = (significand + 1) * 2 ^ top := (Nat.succ_mul significand (2 ^ top)).symm
      _ ≤ 2 ^ bits * 2 ^ top := Nat.mul_le_mul_right _ fits
  · obtain ⟨more, rfl⟩ := Nat.exists_eq_add_of_le' fine
    rw [Nat.pow_add, ← Nat.mul_assoc] at below ⊢
    have fewer : significand * 2 ^ more < 2 ^ bits := Nat.lt_of_mul_lt_mul_right below
    rw [← Nat.succ_mul]
    exact Nat.mul_le_mul_right _ fewer

/-- Below the power 63 of two, numbers end 1024 before it. -/
theorem add_units_le_of_lt
    {number : Binary64}
    {negative : Bool}
    {units : Nat}
    (view : number.view = .finite negative units)
    (below : units < 0x8000000000000000 * unitsPerOne) :
    units + 1024 * unitsPerOne ≤ 0x8000000000000000 * unitsPerOne := by
  obtain ⟨significand, shift, fits, rfl⟩ := exists_units_eq_of_view view
  obtain ⟨exponent, _, one⟩ := exists_unitsPerOne_eq
  have step : 1024 * unitsPerOne = Nat.pow 2 (10 + exponent) := by
    rw [one, Nat.pow_eq, Nat.pow_eq, Nat.pow_add]
  have limit : 0x8000000000000000 * unitsPerOne = Nat.pow 2 (53 + (10 + exponent)) := by
    rw [one, Nat.pow_eq, Nat.pow_eq, Nat.pow_add, Nat.pow_add, ← Nat.mul_assoc]
  rw [limit] at below ⊢
  rw [step]
  exact add_pow_le_of_lt fits below

end Decimal.Binary64

/-! ### The first argument -/

namespace Units

/-- The integer on the wire is the nearest one, unless 64 bits do not hold it. -/
theorem toInt_toInt64
    {number : Binary64}
    {units : Nat}
    (view : number.view = .finite false units) :
    (toInt64 number).toInt = min 0x7fffffffffffffff (nearestWhole units : Int) := by
  have held : number.roundWithin (-0x8000000000000000) 0x7fffffffffffffff =
      min 0x7fffffffffffffff (nearestWhole units : Int) := by
    simp only [roundWithin, view, Bool.false_eq_true, if_false]
    rw [← nearestWhole]
    omega
  rw [toInt64, held]
  exact Int64.toInt_ofInt_of_le (by omega) (by omega)

end Units

/-- An integer that stands for a count of units: positive, and at most one half away from it. -/
structure IsResolution (units : Nat) (resolution : Int) : Prop where
  positive : 1 ≤ resolution
  near : 2 * (resolution * unitsPerOne - units).natAbs ≤ unitsPerOne

/-- What the upload of a configuration says of its encoder steps. -/
structure UploadsResolution (units : Nat) (first : Int64) : Prop where
  /-- The steps are rounded to the nearest integer, and held within 64 bits. -/
  nearest : first.toInt = min 0x7fffffffffffffff (nearestWhole units : Int)
  /-- The resolution is real exactly from one half on and below the power 63 of two. -/
  real : IsResolution units first.toInt ↔
    unitsPerOne ≤ 2 * units ∧ units < 0x8000000000000000 * unitsPerOne
  /-- Steps below one half are uploaded as none. -/
  vanishes : 2 * units < unitsPerOne → first = 0
  /-- Steps from the power 63 of two on are all uploaded as the greatest integer. -/
  saturates : 0x8000000000000000 * unitsPerOne ≤ units → first = Int64.maxValue

theorem uploadsResolution_toInt64
    {number : Binary64}
    {units : Nat}
    (view : number.view = .finite false units) :
    UploadsResolution units (Units.toInt64 number) := by
  have value := Units.toInt_toInt64 view
  have one := unitsPerOne_pos
  have reached := le_nearestWhole_iff 1 units
  have most := le_nearestWhole_iff 0x8000000000000000 units
  have near := natAbs_nearestWhole_sub_le units
  have gap := add_units_le_of_lt view
  constructor
  case nearest => exact value
  case real =>
    rw [value]
    constructor
    · rintro ⟨positive, near⟩
      refine ⟨by omega, ?_⟩
      by_contra large
      rw [Int.min_eq_left (by omega)] at near
      omega
    · rintro ⟨least, below⟩
      have holds : (nearestWhole units : Int) ≤ 0x7fffffffffffffff := by
        have := gap below
        omega
      rw [Int.min_eq_right holds]
      exact ⟨by omega, near⟩
  case vanishes =>
    intro small
    apply Int64.toInt_inj.mp
    rw [value, Int64.toInt_zero]
    omega
  case saturates =>
    intro large
    apply Int64.toInt_inj.mp
    rw [value, Int64.toInt_maxValue]
    omega

namespace MotorConfig

/-- A configuration that passes its check has a positive count of encoder steps. -/
theorem exists_view_encoderSteps
    {config : MotorConfig}
    (valid : config.validate = .ok ()) :
    ∃ units, config.encoderSteps.view = .finite false units ∧ 0 < units := by
  have measure : isMeasure config.encoderSteps = true := by
    cases refused : isMeasure config.encoderSteps with
    | true => rfl
    | false => simp [validate, fault?, refused] at valid
  rw [isMeasure, Bool.and_eq_true] at measure
  exact exists_view_of_isPositive measure.1 measure.2

/-- The first argument of an upload stands for the encoder steps, and when it does so. -/
theorem uploads_resolution
    {config : MotorConfig}
    {command : Command}
    (valid : config.validate = .ok ())
    (made : config.toCommand = .ok command) :
    ∃ units first rest,
      config.encoderSteps.view = .finite false units ∧ 0 < units ∧
        command.arguments = first :: rest ∧ UploadsResolution units first := by
  obtain ⟨units, view, positive⟩ := exists_view_encoderSteps valid
  exact ⟨units, _, _, view, positive, (Command.of_mapError_make_eq_ok made).2,
    uploadsResolution_toInt64 view⟩

/-- The standard drive train, with two fifths of an encoder step. -/
def twoFifths : MotorConfig :=
  { standard with encoderSteps := ofDecimal false 4 (-1) }

/-- Two fifths of a step pass the check, and a resolution of zero is uploaded. -/
theorem uploads_resolution_twoFifths :
    ∃ command units rest,
      twoFifths.validate = .ok () ∧ twoFifths.toCommand = .ok command ∧
        twoFifths.encoderSteps.view = .finite false units ∧ 0 < units ∧
        command.arguments = 0 :: rest ∧ ¬ IsResolution units 0 := by
  have valid : twoFifths.validate = .ok () := by decide +kernel
  obtain ⟨command, made⟩ : ∃ command, twoFifths.toCommand = .ok command := by
    have makes : twoFifths.toCommand.toOption.isSome = true := by decide +kernel
    cases made : twoFifths.toCommand with
    | error _ => simp [made, Except.toOption] at makes
    | ok command => exact ⟨command, rfl⟩
  obtain ⟨units, first, rest, view, positive, arguments, uploads⟩ := uploads_resolution valid made
  have value : twoFifths.encoderSteps.view =
      .finite false (7205759403792794 * Nat.pow 2 1020) := by
    decide +kernel
  obtain ⟨_, same⟩ := View.finite.inj (view.symm.trans value)
  have below : 2 * units < unitsPerOne := by
    rw [same]
    decide +kernel
  obtain rfl := uploads.vanishes below
  exact ⟨command, units, rest, valid, made, view, positive, arguments,
    fun resolution => absurd resolution.positive (by decide)⟩

end MotorConfig

end RoverLink
