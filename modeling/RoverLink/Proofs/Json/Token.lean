import RoverLink.Proofs.Json.Integer
import RoverLink.Proofs.Json.Literal

/-!
# Scalars of JSON

A number and a literal in quotes are read as the same document wherever they
stand (`isToken_of_number`, `isToken_of_isLiteral`).
-/

namespace RoverLink.Json

open Decimal

/-- Whether a text is read as a scalar document. -/
structure IsToken (text : List Char) (document : Document) : Prop where
  starts : ∃ first rest, text = first :: rest ∧ isSpace first = false ∧ first ≠ ']'
  reads : ∀ nesting {rest}, EndsNumber rest →
    readValue (nesting + 1) (text ++ rest) = some (document, rest)

theorem skipSpace_cons
    {first : Char}
    (solid : isSpace first = false)
    (rest : List Char) :
    skipSpace (first :: rest) = first :: rest := by
  simp [skipSpace, solid]

theorem IsToken.skipSpace_append
    {text : List Char}
    {document : Document}
    (token : IsToken text document)
    (after : List Char) :
    skipSpace (text ++ after) = text ++ after := by
  rcases token.starts with ⟨first, rest, rfl, solid, _⟩
  exact skipSpace_cons solid (rest ++ after)

theorem readValue_of_scalar
    {first : Char}
    (noList : first ≠ '[')
    (noRecord : first ≠ '{')
    (nesting : Nat)
    (rest : List Char) :
    readValue (nesting + 1) (first :: rest) = readScalar (first :: rest) := by
  rw [readValue]
  · exact fun _ same => noList (List.cons.inj same).1
  · exact fun _ same => noRecord (List.cons.inj same).1

/-- A list that is not closed at once has items. -/
theorem readValue_list
    {rest : List Char}
    (closed : ∀ behind, skipSpace rest ≠ ']' :: behind)
    (nesting : Nat) :
    readValue (nesting + 1) ('[' :: rest) =
      (readItems (readValue nesting) rest.length rest).map
        fun (items, rest) => (.list items, rest) := by
  rw [readValue]
  split
  next same => exact absurd same (closed _)
  next => rfl

/-- A record that is not closed at once has fields. -/
theorem readValue_record
    {rest : List Char}
    (closed : ∀ behind, skipSpace rest ≠ '}' :: behind)
    (nesting : Nat) :
    readValue (nesting + 1) ('{' :: rest) =
      (readFields (readValue nesting) rest.length rest).map
        fun (fields, rest) => (recordOf fields, rest) := by
  rw [readValue]
  split
  next same => exact absurd same (closed _)
  next => rfl

/-- The characters that begin anything else than a number or stand between tokens. -/
def marks : List Char :=
  [' ', '\t', '\n', '\r', '[', ']', '{', 'n', 't', 'f', '"']

section

variable {first : Char} (begins : first.isDigit = true ∨ first = '-')

include begins

theorem ne_of_number {mark : Char} (member : mark ∈ marks) : first ≠ mark := by
  have none : marks.all (fun mark => !mark.isDigit && mark != '-') = true := by decide
  have other := List.all_eq_true.mp none mark member
  rintro rfl
  rcases begins with digit | rfl
  · simp [digit] at other
  · simp at other

/-- A digit and a minus sign begin nothing but a number. -/
theorem readValue_of_number (nesting : Nat) (rest : List Char) :
    readValue (nesting + 1) (first :: rest) =
      (readNumeral (first :: rest)).map fun (numeral, rest) => (numeral.toDocument, rest) := by
  have other : ∀ mark ∈ marks, first ≠ mark := fun _ => ne_of_number begins
  rw [readValue_of_scalar (other '[' (by decide)) (other '{' (by decide)), readScalar]
  · exact fun _ same => other 'n' (by decide) (List.cons.inj same).1
  · exact fun _ same => other 't' (by decide) (List.cons.inj same).1
  · exact fun _ same => other 'f' (by decide) (List.cons.inj same).1
  · exact fun _ same => other '"' (by decide) (List.cons.inj same).1

theorem isSpace_of_number : isSpace first = false := by
  have other : ∀ mark ∈ marks, first ≠ mark := fun _ => ne_of_number begins
  simp [isSpace, other ' ' (by decide), other '\t' (by decide), other '\n' (by decide),
    other '\r' (by decide)]

theorem isToken_of_number
    {rest : List Char}
    {numeral : Numeral}
    (reads : ∀ {after}, EndsNumber after →
      readNumeral (first :: rest ++ after) = some (numeral, after)) :
    IsToken (first :: rest) numeral.toDocument where
  starts := ⟨first, rest, rfl, isSpace_of_number begins, ne_of_number begins (by decide)⟩
  reads nesting after ends := by
    rw [List.cons_append, readValue_of_number begins, ← List.cons_append, reads ends]
    rfl

end

/-- The digits of an integer are one number. -/
theorem exists_isToken_of_isDecimal
    {text : List Char}
    {integer : Int}
    (written : IsDecimal text integer) :
    ∃ (negative : Bool) (magnitude : Nat),
      integer = (if negative then -(magnitude : Int) else magnitude) ∧
        IsToken text (Numeral.toDocument ⟨negative, digits magnitude, none, none⟩) := by
  rcases readNumeral_of_isDecimal written with ⟨negative, magnitude, value, reads⟩
  rcases written.exists_eq_cons with ⟨first, rest, rfl, begins⟩
  exact ⟨negative, magnitude, value, isToken_of_number begins reads⟩

/-- An integer of a word is printed and read as it is. -/
theorem exists_isToken_signed (value : Int) :
    ∃ numeral : Json.Numeral, IsToken (signed value) numeral.toDocument ∧
      (-0x8000000000000000 ≤ value → value < Word.count64 →
        numeral.toDocument = .whole value) := by
  cases value with
  | ofNat magnitude =>
    refine ⟨⟨false, digits magnitude, none, none⟩, ?token, ?kept⟩
    case token =>
      rcases exists_digits_eq_cons magnitude with ⟨first, rest, split, digit⟩
      rw [signed, split]
      apply isToken_of_number (.inl digit)
      intro after ends
      rw [← split, readNumeral_digits, readUnsigned_digits ends]
    case kept =>
      intro _ small
      have fits : magnitude < Word.count64 := Int.ofNat_lt.mp small
      simp [Numeral.toDocument, Numeral.toInteger?, fits]
  | negSucc below =>
    refine ⟨⟨true, digits (below + 1), none, none⟩, ?token, ?kept⟩
    case token =>
      apply isToken_of_number (.inr rfl)
      intro after ends
      exact readUnsigned_digits ends true (below + 1)
    case kept =>
      intro least _
      have fits : (Word.int64? (Int.negSucc below)).isSome = true := by
        rw [Word.int64?, if_pos (by omega)]
        rfl
      have same : (-((below + 1 : Nat) : Int)) = Int.negSucc below := rfl
      simp only [Numeral.toDocument, Numeral.toInteger?, ofDigits_digits, same, fits]
      simp

theorem isToken_of_isLiteral
    {literal text : List Char}
    (written : IsLiteral literal text) :
    IsToken ('"' :: literal ++ ['"']) (.text (String.ofList text)) where
  starts := ⟨'"', literal ++ ['"'], rfl, by decide, by decide⟩
  reads nesting rest _ := by
    rw [List.cons_append, List.cons_append, List.append_assoc, List.singleton_append,
      readValue_of_scalar (by decide) (by decide), readScalar, readText_of_isLiteral written]
    rfl

end RoverLink.Json
