import RoverLink.Json.Reader
import RoverLink.Proofs.Decimal.Exact
import RoverLink.Proofs.Json.Number

/-!
# How integers are written in JSON

An integer is written by its digits, without leading zeros and after a minus
sign if it is negative; zero may have the sign as well.  Followed by a comma or
a closing bracket it is read as one number, which stands for the integer
(`readNumeral_of_isDecimal`, `isInteger_toDocument`).
-/

namespace RoverLink

namespace Decimal

/-- How an integer is written in decimal. -/
inductive IsDecimal : List Char → Int → Prop where
  | unsigned (magnitude : Nat) : IsDecimal (digits magnitude) magnitude
  | negative (magnitude : Nat) : IsDecimal ('-' :: digits magnitude) (-(magnitude : Int))

/-- A digit or a minus sign comes first. -/
theorem IsDecimal.exists_eq_cons
    {text : List Char}
    {integer : Int}
    (written : IsDecimal text integer) :
    ∃ first rest, text = first :: rest ∧ (first.isDigit = true ∨ first = '-') := by
  cases written with
  | unsigned magnitude =>
    rcases exists_digits_eq_cons magnitude with ⟨first, rest, split, digit⟩
    exact ⟨first, rest, split, .inl digit⟩
  | negative magnitude => exact ⟨'-', digits magnitude, rfl, .inr rfl⟩

theorem isDecimal_signed (integer : Int) : IsDecimal (signed integer) integer := by
  cases integer with
  | ofNat magnitude => exact .unsigned magnitude
  | negSucc below => exact .negative (below + 1)

end Decimal

namespace Json

open Decimal

theorem readUnsigned_digits
    {rest : List Char}
    (ends : EndsNumber rest)
    (negative : Bool)
    (number : Nat) :
    readUnsigned negative (digits number ++ rest) =
      some (⟨negative, digits number, none, none⟩, rest) :=
  readUnsigned_of_isFraction ends negative number .none .none

/-- A number that begins with a digit has no sign. -/
theorem readNumeral_digits (number : Nat) (rest : List Char) :
    readNumeral (digits number ++ rest) = readUnsigned false (digits number ++ rest) := by
  rcases exists_digits_eq_cons number with ⟨first, others, split, digit⟩
  rw [split, List.cons_append, readNumeral]
  rintro behind ⟨⟩
  simp [Char.isDigit] at digit

/-- The digits of an integer are read as a number without fraction and exponent. -/
theorem readNumeral_of_isDecimal
    {text : List Char}
    {integer : Int}
    (written : IsDecimal text integer) :
    ∃ (negative : Bool) (magnitude : Nat),
      integer = (if negative then -(magnitude : Int) else magnitude) ∧
        ∀ {rest}, EndsNumber rest →
          readNumeral (text ++ rest) = some (⟨negative, digits magnitude, none, none⟩, rest) := by
  cases written with
  | unsigned magnitude =>
    refine ⟨false, magnitude, rfl, ?_⟩
    intro rest ends
    rw [readNumeral_digits, readUnsigned_digits ends]
  | negative magnitude =>
    refine ⟨true, magnitude, rfl, ?_⟩
    intro rest ends
    exact readUnsigned_digits ends true magnitude

/-- Whether a document is an integer: zero may be the number `-0.0`. -/
inductive IsInteger : Document → Int → Prop where
  | whole (integer : Int) : IsInteger (.whole integer) integer
  | negativeZero : IsInteger (.real (Binary64.ofRatio true 0 1)) 0

/-- A number without fraction and exponent is kept exactly. -/
theorem isInteger_toDocument
    (negative : Bool)
    {magnitude : Nat}
    (small : magnitude ≤ Binary64.greatestWhole) :
    IsInteger (Numeral.toDocument ⟨negative, digits magnitude, none, none⟩)
      (if negative then -(magnitude : Int) else magnitude) := by
  rw [Binary64.greatestWhole] at small
  cases negative with
  | false =>
    have fits : magnitude < Word.count64 := by
      rw [Word.count64]
      omega
    have kept : Numeral.toDocument ⟨false, digits magnitude, none, none⟩ = .whole magnitude := by
      simp [Numeral.toDocument, Numeral.toInteger?, fits]
    rw [kept]
    exact .whole _
  | true =>
    by_cases zero : magnitude = 0
    · subst zero
      exact .negativeZero
    · have fits : (Word.int64? (-(magnitude : Int))).isSome = true := by
        rw [Word.int64?, if_pos (by omega)]
        rfl
      have kept : Numeral.toDocument ⟨true, digits magnitude, none, none⟩ =
          .whole (-(magnitude : Int)) := by
        simp [Numeral.toDocument, Numeral.toInteger?, fits, zero]
      rw [kept]
      exact .whole _

end Json

end RoverLink
