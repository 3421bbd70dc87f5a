import RoverLink.Decimal.Written
import RoverLink.Proofs.Decimal.Digits
import RoverLink.Proofs.Decimal.Shortest

/-!
# How decimals are laid out

Without an exponent, a decimal is written as the digits of a whole number, a
point and further digits (`isPointed_positional`).  The digits of both sides,
taken as one number, have the value of the decimal at the place of the last.
-/

namespace RoverLink.Decimal

/-! ### Digits -/

theorem digits_mul_pow {number : Nat} (positive : 0 < number) (places : Nat) :
    digits (number * 10 ^ places) = digits number ++ zeros places := by
  induction places with
  | zero => simp [zeros]
  | succ places induction =>
    have tenfold : number * 10 ^ (places + 1) = 10 * (number * 10 ^ places) + 0 := by
      rw [pow_succ]
      ring
    have more : 0 < number * 10 ^ places := Nat.mul_pos positive (Nat.pow_pos (by decide))
    rw [tenfold, digits, ← Nat.toDigits_append_toDigits (by decide) more (by decide), ← digits,
      induction, zeros, zeros, List.replicate_succ', List.append_assoc]
    rfl

/-- Without its last digits a number is divided by a power of ten. -/
theorem take_digits {number places : Nat} (short : places < (digits number).length) :
    (digits number).take ((digits number).length - places) = digits (number / 10 ^ places) := by
  induction places generalizing number with
  | zero => simp
  | succ places induction =>
    have long : 10 ≤ number := by
      refine Nat.le_of_not_lt fun single => ?_
      rw [digits, Nat.toDigits_of_lt_base single] at short
      simp at short
    rw [digits_of_le long, List.length_append, List.length_singleton] at short ⊢
    rw [Nat.add_sub_add_right, List.take_append_of_le_length (Nat.sub_le _ _),
      induction (Nat.lt_of_succ_lt_succ short), Nat.div_div_eq_div_mul, pow_succ,
      Nat.mul_comm 10]

/-! ### Decimals with a point -/

/-- A text of digits with a point between them, and the number that it stands for. -/
inductive IsPointed : List Char → ℚ → Prop where
  | intro (whole : Nat) {fraction : List Char}
      (nonempty : fraction ≠ [])
      (isDigit : ∀ character ∈ fraction, character.isDigit = true) :
      IsPointed (digits whole ++ '.' :: fraction)
        (Numeral.value ⟨ofDigits (digits whole ++ fraction), -fraction.length⟩)

namespace Binary64

theorem isPointed_of_value_eq
    (whole : Nat)
    {fraction : List Char}
    (nonempty : fraction ≠ [])
    (isDigit : ∀ character ∈ fraction, character.isDigit = true)
    {value : ℚ}
    (same : Numeral.value ⟨ofDigits (digits whole ++ fraction), -fraction.length⟩ = value) :
    IsPointed (digits whole ++ '.' :: fraction) value := by
  subst same
  exact .intro whole nonempty isDigit

/-- A whole number is followed by a point and a zero. -/
theorem value_whole (whole : Nat) :
    Numeral.value ⟨ofDigits (digits whole ++ ['0']), -(['0'] : List Char).length⟩ = whole := by
  have tenfold : ofDigits (digits whole ++ ['0']) = 10 * whole := by
    rw [ofDigits_append, ofDigits_digits]
    rfl
  simp only [Numeral.value, tenfold, List.length_singleton]
  norm_num
  ring

/-- A decimal without an exponent has digits on both sides of its point. -/
theorem isPointed_positional (decimal : Numeral) :
    IsPointed (positional decimal ".0".toList) decimal.value := by
  rcases decimal with ⟨significand, exponent⟩
  simp only [positional]
  split
  next whole =>
    rcases Int.eq_ofNat_of_zero_le whole with ⟨places, rfl⟩
    by_cases zero : significand = 0
    · subst zero
      refine isPointed_of_value_eq 0 (List.cons_ne_nil '0' []) (by simp) ?_
      rw [value_whole]
      simp [Numeral.value]
    · rw [if_neg zero, Int.toNat_natCast, ← digits_mul_pow (Nat.pos_of_ne_zero zero)]
      refine isPointed_of_value_eq _ (List.cons_ne_nil '0' []) (by simp) ?_
      rw [value_whole]
      simp [Numeral.value]
  next fractional =>
    rcases Int.exists_eq_neg_ofNat (Int.le_of_lt (Int.not_le.mp fractional)) with ⟨places, rfl⟩
    simp only [neg_neg, Int.toNat_natCast]
    split
    next short =>
      have whole := take_digits short
      rw [whole]
      have positive : 0 < places := by omega
      refine isPointed_of_value_eq _ ?nonempty ?isDigit ?same
      case nonempty =>
        rw [ne_eq, List.drop_eq_nil_iff]
        omega
      case isDigit =>
        intro character member
        exact isDigit_of_mem_digits (List.mem_of_mem_drop member)
      case same =>
        rw [← whole, List.take_append_drop, ofDigits_digits, List.length_drop,
          Nat.sub_sub_self (Nat.le_of_lt short)]
    next long =>
      change IsPointed (digits 0 ++ '.' ::
        (zeros (places - (digits significand).length) ++ digits significand)) _
      refine isPointed_of_value_eq 0 ?nonempty ?isDigit ?same
      case nonempty => simp [digits_ne_nil]
      case isDigit =>
        intro character member
        rcases List.mem_append.mp member with zero | digit
        · exact isDigit_of_mem_zeros zero
        · exact isDigit_of_mem_digits digit
      case same =>
        have leading : ofDigits (digits 0 ++ (zeros (places - (digits significand).length) ++
            digits significand)) = significand := by
          rw [← List.append_assoc, show digits 0 ++ zeros (places - (digits significand).length) =
            zeros (places - (digits significand).length + 1) from rfl, ofDigits_zeros_append,
            ofDigits_digits]
        rw [leading, List.length_append, zeros, List.length_replicate,
          Nat.sub_add_cancel (Nat.le_of_not_lt long)]

end Binary64

end RoverLink.Decimal
