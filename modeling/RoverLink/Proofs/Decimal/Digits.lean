import Mathlib.Data.List.Basic
import RoverLink.Decimal.Digits

/-!
# The digits of integers

What stands in the text of an integer, and which digit comes first.
-/

namespace RoverLink.Decimal

theorem digits_ne_nil (number : Nat) : digits number ≠ [] :=
  Nat.toDigits_ne_nil

theorem signed_ne_nil (integer : Int) : signed integer ≠ [] := by
  cases integer with
  | ofNat magnitude => exact digits_ne_nil magnitude
  | negSucc below => simp [signed]

/-- The characters of a written integer. -/
theorem mem_signed
    {integer : Int}
    {character : Char}
    (member : character ∈ signed integer) :
    character.isDigit = true ∨ character = '-' := by
  cases integer with
  | ofNat magnitude => exact Or.inl (isDigit_of_mem_digits member)
  | negSucc below =>
    rcases List.mem_cons.mp member with sign | digit
    · exact Or.inr sign
    · exact Or.inl (isDigit_of_mem_digits digit)

theorem digits_of_le {number : Nat} (long : 10 ≤ number) :
    digits number = digits (number / 10) ++ [Nat.digitChar (number % 10)] :=
  Nat.toDigits_of_base_le (by decide) long

theorem exists_digits_eq_cons (number : Nat) :
    ∃ first rest, digits number = first :: rest ∧ first.isDigit = true := by
  cases split : digits number with
  | nil => exact (digits_ne_nil number split).elim
  | cons first rest =>
    have member : first ∈ digits number := by simp [split]
    exact ⟨first, rest, rfl, isDigit_of_mem_digits member⟩

/-- Only zero is written with a zero as its first digit. -/
theorem head?_digits_ne_zero
    {number : Nat}
    (positive : 0 < number) :
    (digits number).head? ≠ some '0' := by
  induction number using Nat.strongRecOn with
  | ind number induction =>
    by_cases single : number < 10
    · have all : ∀ digit < 10, 0 < digit → Nat.digitChar digit ≠ '0' := by decide
      rw [digits, Nat.toDigits_of_lt_base single, List.head?_cons]
      intro same
      exact all number single positive (Option.some.inj same)
    · rw [digits_of_le (by omega), List.head?_append_of_ne_nil _ (digits_ne_nil (number / 10))]
      exact induction (number / 10) (by omega) (by omega)

theorem isDigit_of_mem_zeros
    {count : Nat}
    {character : Char}
    (member : character ∈ zeros count) :
    character.isDigit = true := by
  rw [List.eq_of_mem_replicate member]
  rfl

theorem ofDigits_append (before after : List Char) :
    ofDigits (before ++ after) = Nat.ofDigitChars 10 after (ofDigits before) := by
  rw [ofDigits, ofDigits, Nat.ofDigitChars_append]

theorem ofDigits_zeros_append (count : Nat) (after : List Char) :
    ofDigits (zeros count ++ after) = ofDigits after := by
  have none : ofDigits (zeros count) = 0 := by
    rw [ofDigits, zeros, Nat.ofDigitChars_replicate_zero, Nat.mul_zero]
  rw [ofDigits_append, none, ofDigits]

end RoverLink.Decimal
