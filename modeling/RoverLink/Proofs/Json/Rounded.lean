import RoverLink.Proofs.Decimal.Whole
import RoverLink.Proofs.Json.Integer
import RoverLink.Reply.Reading

/-!
# Integers of any size in JSON

An integer of 64 bits, with its sign apart, is gathered digit by digit, and what
is read is the number nearest to it.  The digits that 64 bits have no room for
become a power of ten, and a number with such digits, though it may be rounded
three times, stays well beyond the words of 64 bits
(`exists_isReadAs_of_readValue`).
-/

namespace RoverLink

open Decimal

/-! ### Products -/

namespace Decimal.Binary64

/-- The units of a number that is not too small are in normal form. -/
theorem exists_isNormal_of_view
    {number : Binary64}
    {negative : Bool}
    {units : Nat}
    (view : number.view = .finite negative units)
    (large : fractionCount ≤ units) :
    ∃ significand shift, IsNormal significand shift ∧ units = significand * Nat.pow 2 shift := by
  have field : number.exponentField < 0x800 := Nat.mod_lt _ (by decide)
  have fraction : number.fractionField < fractionCount := Nat.mod_lt _ (by decide)
  rw [Binary64.view] at view
  split at view
  next => split at view <;> cases view
  next finite =>
    injection view with _ same
    have normal : number.exponentField ≠ 0 := by
      intro subnormal
      rw [unitsOf, if_pos subnormal] at same
      omega
    rw [unitsOf, if_neg normal] at same
    exact ⟨_, _, ⟨Nat.le_add_right _ _, by omega, by omega⟩, same.symm⟩

theorem view_mul
    {left right : Binary64}
    {leftNegative rightNegative : Bool}
    {leftUnits rightUnits : Nat}
    (leftView : left.view = .finite leftNegative leftUnits)
    (rightView : right.view = .finite rightNegative rightUnits) :
    left * right =
      ofRatio (leftNegative != rightNegative) (leftUnits * rightUnits)
        (unitsPerOne * unitsPerOne) := by
  change mul left right = _
  simp only [mul, leftView, rightView]

/-- A number that is not too small times one is this number. -/
theorem view_mul_one
    {left right : Binary64}
    {negative : Bool}
    {units : Nat}
    (leftView : left.view = .finite negative units)
    (large : fractionCount ≤ units)
    (one : right.view = .finite false unitsPerOne) :
    (left * right).view = .finite negative units := by
  rcases exists_isNormal_of_view leftView large with ⟨significand, shift, normal, same⟩
  rw [view_mul leftView one, Bool.bne_false, same]
  apply view_ofRatio _ (Nat.mul_pos unitsPerOne_pos unitsPerOne_pos) normal
  rw [Nat.mul_assoc, Nat.mul_comm]

/-- The factors of a finite product are finite. -/
theorem exists_view_of_isFinite_mul
    {left right : Binary64}
    {negative : Bool}
    {units : Nat}
    (leftView : left.view = .finite negative units)
    (finite : (left * right).isFinite = true) :
    ∃ sign factor, right.view = .finite sign factor := by
  change (mul left right).isFinite = true at finite
  have notInfinite : ∀ sign, (infinity sign).isFinite = false := by decide
  cases rightView : right.view with
  | finite sign factor => exact ⟨sign, factor, rfl⟩
  | infinite sign =>
    simp only [mul, leftView, rightView] at finite
    split at finite
    next => exact absurd finite (by decide)
    next => simp [notInfinite] at finite
  | notANumber =>
    simp only [mul, leftView, rightView] at finite
    exact absurd finite (by decide)

section

variable {negative : Bool} {units digits power : Nat} (few : digits ≤ 2 * fractionCount)

include few

/-- A ratio is not rounded below an integer with few digits in base two. -/
theorem mul_unitsPerOne_le_of_view_ofRatio
    {sign : Bool}
    {numerator denominator : Nat}
    (positive : 0 < denominator)
    (view : (ofRatio sign numerator denominator).view = .finite negative units)
    (small : digits * Nat.pow 2 power * denominator ≤ numerator) :
    digits * Nat.pow 2 power * unitsPerOne ≤ units := by
  rcases exists_unitsPerOne_eq with ⟨exponent, _, one⟩
  have scaled : digits * Nat.pow 2 power * unitsPerOne =
      digits * Nat.pow 2 (power + exponent) := by
    rw [one, Nat.mul_assoc]
    exact congrArg _ (Nat.pow_add 2 power exponent).symm
  rw [scaled]
  apply le_of_view_ofRatio view few
  rw [← scaled, Nat.le_div_iff_mul_le positive, Nat.mul_right_comm]
  exact Nat.mul_le_mul_right _ small

theorem mul_unitsPerOne_le_of_view_mul
    {left right : Binary64}
    {leftNegative rightNegative : Bool}
    {leftUnits rightUnits leftLeast rightLeast : Nat}
    (leftView : left.view = .finite leftNegative leftUnits)
    (rightView : right.view = .finite rightNegative rightUnits)
    (view : (left * right).view = .finite negative units)
    (ofLeft : leftLeast * unitsPerOne ≤ leftUnits)
    (ofRight : rightLeast * unitsPerOne ≤ rightUnits)
    (split : digits * Nat.pow 2 power = leftLeast * rightLeast) :
    digits * Nat.pow 2 power * unitsPerOne ≤ units := by
  rw [view_mul leftView rightView] at view
  apply mul_unitsPerOne_le_of_view_ofRatio few (Nat.mul_pos unitsPerOne_pos unitsPerOne_pos) view
  rw [split, Nat.mul_mul_mul_comm]
  exact Nat.mul_le_mul ofLeft ofRight

end

end Decimal.Binary64

/-! ### Gathering digits -/

namespace Json

theorem digit_le_nine
    {digit : Char}
    (isDigit : digit.isDigit = true) :
    digit.toNat - '0'.toNat ≤ 9 := by
  simp only [Char.isDigit, Bool.and_eq_true, decide_eq_true_eq, UInt32.le_iff_toNat_le] at isDigit
  have zero : '0'.val.toNat = 48 := rfl
  have nine : '9'.val.toNat = 57 := rfl
  simp only [Char.toNat]
  omega

theorem le_ofDigitChars (significand : Nat) (digits : List Char) :
    significand ≤ Nat.ofDigitChars 10 digits significand := by
  induction digits generalizing significand with
  | nil => exact Nat.le_refl _
  | cons digit rest induction =>
    rw [Nat.ofDigitChars_cons]
    exact Nat.le_trans (by omega) (induction _)

/-- What is gathered from digits: their number if it fits, or else all that fits. -/
inductive Gathered (number : Nat) : Nat × List Char → Prop where
  | all (fits : number < Word.count64) : Gathered number (number, [])
  | most {significand : Nat} {digit : Char} {rest : List Char}
      (exceeds : Word.count64 ≤ number)
      (fits : significand < Word.count64)
      (full : Word.count64 ≤ 10 * significand + 9) :
      Gathered number (significand, digit :: rest)

theorem gathered_gather
    {significand : Nat}
    (fits : significand < Word.count64)
    {digits : List Char}
    (isDigit : ∀ digit ∈ digits, digit.isDigit = true) :
    Gathered (Nat.ofDigitChars 10 digits significand) (gather significand digits) := by
  induction digits generalizing significand with
  | nil => exact .all fits
  | cons digit rest induction =>
    have others := fun other member => isDigit other (List.mem_cons_of_mem digit member)
    rw [Nat.ofDigitChars_cons, gather]
    split
    next longer => exact induction longer others
    next exceeds =>
      have last := digit_le_nine (isDigit digit (by simp))
      have more := le_ofDigitChars (10 * significand + (digit.toNat - '0'.toNat)) rest
      exact .most (by omega) fits (by omega)

theorem gathered_digits (magnitude : Nat) : Gathered magnitude (gather 0 (digits magnitude)) := by
  have gathered : Gathered (ofDigits (digits magnitude)) (gather 0 (digits magnitude)) :=
    gathered_gather (by decide) fun _ => isDigit_of_mem_digits
  rwa [ofDigits_digits] at gathered

/-! ### The number that is read -/

theorem view_powerOfTen_zero : (powerOfTen 0).view = .finite false Binary64.unitsPerOne := by
  have small : 1 ≤ Binary64.greatestWhole := by decide
  have one := Binary64.view_ofRatio_of_le_greatestWhole false small
  rwa [Nat.one_mul] at one

/-- What the digits of an integer are read as: the nearest number, or one far beyond 64 bits. -/
inductive IsReadAs (negative : Bool) (magnitude : Nat) (number : Binary64) : Prop where
  | rounded
      (fits : magnitude < Word.count64)
      (view : number.view =
        .finite negative (Binary64.roundedWhole magnitude * Binary64.unitsPerOne)) :
      IsReadAs negative magnitude number
  | beyond {sign : Bool} {units : Nat}
      (exceeds : Word.count64 ≤ magnitude)
      (view : number.view = .finite sign units)
      (large : 5 * Nat.pow 2 61 * Binary64.unitsPerOne ≤ units) :
      IsReadAs negative magnitude number

/-- Digits that all fit are multiplied by one. -/
theorem isReadAs_of_fits
    {negative : Bool}
    {magnitude : Nat}
    {number : Binary64}
    (positive : 0 < magnitude)
    (fits : magnitude < Word.count64)
    (reads : magnify? (Binary64.ofRatio negative magnitude 1) 0 = some number) :
    IsReadAs negative magnitude number := by
  have view := Binary64.view_ofRatio_whole negative fits
  have large : Binary64.fractionCount ≤
      Binary64.roundedWhole magnitude * Binary64.unitsPerOne := by
    rcases Binary64.exists_unitsPerOne_eq with ⟨exponent, value, units⟩
    have least : 1 * Nat.pow 2 exponent ≤
        Binary64.roundedWhole magnitude * Binary64.unitsPerOne := by
      apply Binary64.le_of_view_ofRatio view (by decide)
      rw [Nat.div_one, units]
      exact Nat.mul_le_mul_right _ positive
    have more : 2 ^ 52 ≤ 2 ^ exponent := Nat.pow_le_pow_right (by decide) (by omega)
    rw [Nat.one_mul] at least
    exact Nat.le_trans more least
  rw [magnify?, if_pos (Nat.zero_le greatestPower)] at reads
  simp only at reads
  split at reads
  next =>
    cases reads
    exact .rounded fits (Binary64.view_mul_one view large view_powerOfTen_zero)
  next => cases reads

/-- Digits that 64 bits have no room for make a number of 66 bits at least. -/
theorem isReadAs_of_full
    {negative : Bool}
    {magnitude significand more : Nat}
    {number : Binary64}
    (exceeds : Word.count64 ≤ magnitude)
    (fits : significand < Word.count64)
    (full : Word.count64 ≤ 10 * significand + 9)
    (reads : magnify? (Binary64.ofRatio negative significand 1) (more + 1) = some number) :
    IsReadAs negative magnitude number := by
  rw [magnify?] at reads
  split at reads
  next =>
    simp only at reads
    split at reads
    next finite =>
      cases reads
      have view := Binary64.view_ofRatio_whole negative fits
      rcases Binary64.exists_view_of_isFinite_mul view finite with ⟨sign, factor, powerView⟩
      rcases (Binary64.isFinite_iff _).mp finite with ⟨other, units, product⟩
      refine .beyond exceeds product ?_
      rw [Word.count64] at full
      -- The significand has 61 bits, and the power of ten is ten or more.
      have least : Nat.pow 2 60 ≤ significand := by
        rw [Nat.pow_eq]
        omega
      have ofSignificand : 1 * Nat.pow 2 60 * Binary64.unitsPerOne ≤
          Binary64.roundedWhole significand * Binary64.unitsPerOne := by
        apply Binary64.mul_unitsPerOne_le_of_view_ofRatio (by decide) (by decide) view
        rwa [Nat.one_mul, Nat.mul_one]
      have ten : 5 * Nat.pow 2 1 ≤ Nat.pow 10 (more + 1) :=
        Nat.le_mul_of_pos_left 10 (Nat.pow_pos (by decide))
      have ofPower : 5 * Nat.pow 2 1 * Binary64.unitsPerOne ≤ factor := by
        apply Binary64.mul_unitsPerOne_le_of_view_ofRatio (by decide) (by decide) powerView
        rwa [Nat.mul_one]
      exact Binary64.mul_unitsPerOne_le_of_view_mul (by decide) view powerView product
        ofSignificand ofPower (by decide)
    next => cases reads
  next => cases reads

theorem isReadAs_of_toBinary64?
    {negative : Bool}
    {magnitude : Nat}
    {number : Binary64}
    (reads : Numeral.toBinary64? ⟨negative, digits magnitude, none, none⟩ = some number) :
    IsReadAs negative magnitude number := by
  have gathered := gathered_digits magnitude
  simp only [Numeral.toBinary64?, Numeral.scaled, Option.getD_none, gather] at reads
  generalize gather 0 (digits magnitude) = result at gathered reads
  cases gathered with
  | all fits =>
    by_cases zero : magnitude = 0
    · rw [if_pos zero] at reads
      cases reads
      exact .rounded fits (Binary64.view_ofRatio_whole negative fits)
    · simp only [if_neg zero, List.length_nil, Nat.sub_zero, Int.ofNat_zero, Int.add_zero,
        Int.sub_zero, Int.le_refl, if_true, Int.toNat_zero] at reads
      exact isReadAs_of_fits (Nat.pos_of_ne_zero zero) fits reads
  | @most significand digit rest exceeds fits full =>
    rw [Word.count64] at full
    have nonzero : ¬ significand = 0 := by omega
    simp only [if_neg nonzero, List.length_nil, List.length_cons, Nat.sub_zero, Int.ofNat_zero,
      Int.zero_add, Int.sub_zero, Int.natCast_nonneg, if_true, Int.toNat_natCast] at reads
    exact isReadAs_of_full exceeds fits full reads

/-- An integer that is kept exactly is rounded when it becomes a value. -/
theorem isReadAs_of_toInteger?
    {negative : Bool}
    {magnitude : Nat}
    {integer : Int}
    (kept : Numeral.toInteger? ⟨negative, digits magnitude, none, none⟩ = some integer) :
    IsReadAs negative magnitude (Binary64.ofInt integer) := by
  simp only [Numeral.toInteger?, ofDigits_digits, Option.isSome_none, Bool.false_eq_true, or_self,
    if_false] at kept
  cases negative with
  | true =>
    simp only [if_true] at kept
    split at kept
    next small =>
      have fits : magnitude < Word.count64 := by
        have word := small.2
        rw [Word.int64?] at word
        rw [Word.count64]
        split at word
        next => omega
        next => cases word
      cases kept
      have sign : decide (-(magnitude : Int) < 0) = true := by
        have := small.1
        exact decide_eq_true (by omega)
      rw [Binary64.ofInt, sign, Int.natAbs_neg, Int.natAbs_natCast]
      exact .rounded fits (Binary64.view_ofRatio_whole true fits)
    next => cases kept
  | false =>
    simp only [Bool.false_eq_true, if_false] at kept
    split at kept
    next fits =>
      cases kept
      have sign : decide ((magnitude : Int) < 0) = false := decide_eq_false (by omega)
      rw [Binary64.ofInt, sign, Int.natAbs_natCast]
      exact .rounded fits (Binary64.view_ofRatio_whole false fits)
    next => cases kept

/-- The digits of an integer are read as a number, unless they are too many. -/
theorem exists_isReadAs_of_readValue
    {negative : Bool}
    {magnitude : Nat}
    {value : ReplyValue}
    (reads : Reply.readValue (Numeral.toDocument ⟨negative, digits magnitude, none, none⟩) =
      .ok value) :
    ∃ number, value = .number number ∧ IsReadAs negative magnitude number := by
  rw [Numeral.toDocument] at reads
  split at reads
  next integer kept =>
    cases reads
    exact ⟨_, rfl, isReadAs_of_toInteger? kept⟩
  next =>
    split at reads
    next number real =>
      cases reads
      exact ⟨_, rfl, isReadAs_of_toBinary64? real⟩
    next => cases reads

end Json

end RoverLink
