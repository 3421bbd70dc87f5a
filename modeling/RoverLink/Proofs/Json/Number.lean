import RoverLink.Json.Number
import RoverLink.Proofs.Decimal.Digits
import RoverLink.Proofs.Text.Cutting

/-!
# How numbers are written in JSON

A number is the digits of a whole number without leading zeros, with a fraction
and an exponent if there are any.  It is read up to a character that cannot
belong to it (`readUnsigned_of_isFraction`).
-/

namespace RoverLink.Json

open Decimal

/-- Whether a text that follows a number cannot belong to it. -/
def EndsNumber (rest : List Char) : Prop :=
  ∀ character ∈ rest.head?,
    character.isDigit = false ∧ character ≠ '.' ∧ character ≠ 'e' ∧ character ≠ 'E'

/-- How a fraction is written. -/
inductive IsFraction : List Char → Option (List Char) → Prop where
  | none : IsFraction [] none
  | some {digits : List Char}
      (nonempty : digits ≠ [])
      (isDigit : ∀ character ∈ digits, character.isDigit = true) :
      IsFraction ('.' :: digits) (some digits)

/-- How an exponent is written, always with its sign. -/
inductive IsExponent : List Char → Option Int → Prop where
  | none : IsExponent [] none
  | upward (power : Nat) : IsExponent ('e' :: '+' :: digits power) (some power)
  | downward (power : Nat) : IsExponent ('e' :: '-' :: digits power) (some (-power))

theorem readIntegral_digits
    {rest : List Char}
    (stops : ∀ character ∈ rest.head?, character.isDigit = false)
    (number : Nat) :
    readIntegral (digits number ++ rest) = some (digits number, rest) := by
  by_cases zero : number = 0
  · subst zero
    rfl
  · have first := head?_digits_ne_zero (Nat.pos_of_ne_zero zero)
    rw [readIntegral, Text.takeWhile_append_of_stops (fun _ => isDigit_of_mem_digits) stops,
      Text.dropWhile_append_of_stops (fun _ => isDigit_of_mem_digits) stops]
    · simp [digits_ne_nil number]
    · intro others same
      cases split : digits number with
      | nil => exact digits_ne_nil number split
      | cons digit behind =>
        rw [split] at first same
        exact first (congrArg some (List.cons.inj same).1)

theorem readPower_digits
    {rest : List Char}
    (stops : ∀ character ∈ rest.head?, character.isDigit = false)
    (negative : Bool)
    (power : Nat) :
    readPower negative (digits power ++ rest) =
      some (some (if negative then -(power : Int) else power), rest) := by
  simp [readPower, Text.takeWhile_append_of_stops (fun _ => isDigit_of_mem_digits) stops,
    Text.dropWhile_append_of_stops (fun _ => isDigit_of_mem_digits) stops, digits_ne_nil]

theorem readFraction_of_no_point
    {text : List Char}
    (noPoint : ∀ character ∈ text.head?, character ≠ '.') :
    readFraction text = some (none, text) := by
  cases text with
  | nil => rfl
  | cons first others =>
    rw [readFraction]
    rintro rest ⟨⟩
    exact noPoint '.' rfl rfl

section

variable {rest : List Char} (ends : EndsNumber rest)

include ends

theorem EndsNumber.isDigit : ∀ character ∈ rest.head?, character.isDigit = false :=
  fun character first => (ends character first).1

/-- What follows the fraction of a number, be it an exponent or not, is neither digit nor point. -/
theorem head?_of_isExponent
    {text : List Char}
    {exponent : Option Int}
    (written : IsExponent text exponent) :
    ∀ character ∈ (text ++ rest).head?, character.isDigit = false ∧ character ≠ '.' := by
  intro character first
  cases written with
  | none => exact ⟨(ends character first).1, (ends character first).2.1⟩
  | upward | downward =>
    cases first
    decide

theorem readExponent_of_isExponent
    {text : List Char}
    {exponent : Option Int}
    (written : IsExponent text exponent) :
    readExponent (text ++ rest) = some (exponent, rest) := by
  cases written with
  | none =>
    cases rest with
    | nil => rfl
    | cons first others =>
      have other := ends first rfl
      rw [List.nil_append, readExponent.eq_def]
      exact if_neg (not_or.mpr other.2.2)
  | upward power => exact readPower_digits ends.isDigit false power
  | downward power => exact readPower_digits ends.isDigit true power

/-- A number is read up to where it ends. -/
theorem readUnsigned_of_isFraction
    (negative : Bool)
    (whole : Nat)
    {fractionText exponentText : List Char}
    {fraction : Option (List Char)}
    {exponent : Option Int}
    (isFraction : IsFraction fractionText fraction)
    (isExponent : IsExponent exponentText exponent) :
    readUnsigned negative (digits whole ++ (fractionText ++ (exponentText ++ rest))) =
      some (⟨negative, digits whole, fraction, exponent⟩, rest) := by
  have follows := head?_of_isExponent ends isExponent
  have behind : ∀ character ∈ (exponentText ++ rest).head?, character.isDigit = false :=
    fun character first => (follows character first).1
  have readsExponent := readExponent_of_isExponent ends isExponent
  cases isFraction with
  | none =>
    have readsFraction := readFraction_of_no_point fun character first =>
      (follows character first).2
    rw [List.nil_append, readUnsigned, readIntegral_digits behind]
    simp only [Option.bind_eq_bind, Option.bind_some, readsFraction, readsExponent]
    rfl
  | @some places nonempty isDigit =>
    have readsFraction : readFraction ('.' :: (places ++ (exponentText ++ rest))) =
        some (some places, exponentText ++ rest) := by
      rw [readFraction, Text.takeWhile_append_of_stops isDigit behind,
        Text.dropWhile_append_of_stops isDigit behind, if_neg nonempty]
    rw [readUnsigned, List.cons_append, readIntegral_digits (by rintro _ ⟨⟩; rfl)]
    simp only [Option.bind_eq_bind, Option.bind_some, readsFraction, readsExponent]
    rfl

end

end RoverLink.Json
