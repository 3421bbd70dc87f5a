import RoverLink.Json.Printer
import RoverLink.Proofs.Decimal.Layout
import RoverLink.Proofs.Json.Integer

/-!
# How numbers that are no integers are printed in JSON

A finite number is printed with a fraction or an exponent, which tells it apart
from an integer, and what is printed is read as one number
(`isReal_scientific?`, `readNumeral_of_isReal`).
-/

namespace RoverLink.Json

open Decimal

/-- How a number is written that is not kept as an integer. -/
inductive IsReal : List Char → Numeral → Prop where
  | intro (negative : Bool) (whole : Nat)
      {fractionText exponentText : List Char}
      {fraction : Option (List Char)}
      {exponent : Option Int}
      (isFraction : IsFraction fractionText fraction)
      (isExponent : IsExponent exponentText exponent)
      (apart : fraction.isSome = true ∨ exponent.isSome = true) :
      IsReal (Binary64.withSign negative (digits whole ++ (fractionText ++ exponentText)))
        ⟨negative, digits whole, fraction, exponent⟩

theorem IsReal.toInteger?
    {text : List Char}
    {numeral : Numeral}
    (written : IsReal text numeral) :
    numeral.toInteger? = none := by
  cases written with
  | intro negative whole _ _ apart => exact if_pos apart

/-- A digit or a minus sign comes first. -/
theorem IsReal.exists_eq_cons
    {text : List Char}
    {numeral : Numeral}
    (written : IsReal text numeral) :
    ∃ first rest, text = first :: rest ∧ (first.isDigit = true ∨ first = '-') := by
  cases written with
  | intro negative whole _ _ _ =>
    cases negative with
    | true => exact ⟨'-', _, rfl, .inr rfl⟩
    | false =>
      rcases exists_digits_eq_cons whole with ⟨first, rest, split, digit⟩
      rw [Binary64.withSign, if_neg Bool.false_ne_true, split]
      exact ⟨first, _, rfl, .inl digit⟩

theorem readNumeral_of_isReal
    {text rest : List Char}
    {numeral : Numeral}
    (written : IsReal text numeral)
    (ends : EndsNumber rest) :
    readNumeral (text ++ rest) = some (numeral, rest) := by
  cases written with
  | intro negative whole isFraction isExponent _ =>
    have reads := readUnsigned_of_isFraction ends negative whole isFraction isExponent
    cases negative with
    | true =>
      rw [Binary64.withSign, if_pos rfl, List.cons_append, readNumeral, List.append_assoc,
        List.append_assoc]
      exact reads
    | false =>
      rw [Binary64.withSign, if_neg Bool.false_ne_true, List.append_assoc, List.append_assoc,
        readNumeral_digits]
      exact reads

theorem isReal_of_isPointed
    {text : List Char}
    {value : ℚ}
    (pointed : IsPointed text value)
    (negative : Bool) :
    ∃ numeral, IsReal (Binary64.withSign negative text) numeral := by
  cases pointed with
  | intro whole nonempty isDigit =>
    have real := IsReal.intro negative whole (.some nonempty isDigit) .none (.inl rfl)
    rw [List.append_nil] at real
    exact ⟨_, real⟩

theorem isExponent_exponentMark (power : Int) :
    ∃ exponent, IsExponent (Binary64.exponentMark power) (some exponent) := by
  cases power with
  | ofNat magnitude => exact ⟨magnitude, .upward magnitude⟩
  | negSucc below => exact ⟨-(below + 1 : Nat), .downward (below + 1)⟩

/-- The first digit of a number alone is the number without its other digits. -/
theorem exists_digits_eq_singleton
    {number : Nat}
    {first : Char}
    {rest : List Char}
    (split : digits number = first :: rest) :
    ∃ leading, digits leading = [first] := by
  have taken := @take_digits number rest.length (by simp [split])
  rw [split, List.length_cons, Nat.add_sub_cancel_left] at taken
  exact ⟨_, taken.symm⟩

theorem isReal_exponential (negative : Bool) (decimal : Decimal.Numeral) :
    ∃ numeral, IsReal (Binary64.withSign negative (Binary64.exponential decimal)) numeral := by
  simp only [Binary64.exponential]
  generalize decimal.exponent + (digits decimal.significand).length - 1 = power
  rcases isExponent_exponentMark power with ⟨exponent, isExponent⟩
  cases split : digits decimal.significand with
  | nil => exact (digits_ne_nil _ split).elim
  | cons first rest =>
    rcases exists_digits_eq_singleton split with ⟨leading, single⟩
    cases rest with
    | nil =>
      have real := IsReal.intro negative leading .none isExponent (.inr rfl)
      rw [single] at real
      exact ⟨_, real⟩
    | cons second others =>
      have digit : ∀ character ∈ second :: others, character.isDigit = true := by
        intro character member
        have inside : character ∈ digits decimal.significand := by
          rw [split]
          exact List.mem_cons_of_mem first member
        exact isDigit_of_mem_digits inside
      have real := IsReal.intro negative leading (.some (List.cons_ne_nil second others) digit)
        isExponent (.inr rfl)
      rw [single] at real
      exact ⟨_, real⟩

/-- Every finite number is printed so that it is told apart from an integer. -/
theorem isReal_scientific?
    {number : Binary64}
    {text : List Char}
    (printed : number.scientific? = some text) :
    ∃ numeral, IsReal text numeral := by
  rw [Binary64.scientific?] at printed
  split at printed
  next negative units _ =>
    cases printed
    split
    next => exact isReal_of_isPointed (Binary64.isPointed_positional _) negative
    next => exact isReal_exponential negative _
  next => simp at printed

end RoverLink.Json
