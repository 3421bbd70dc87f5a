import Mathlib.Data.List.TakeWhile
import RoverLink.Proofs.Decimal.Layout
import RoverLink.Proofs.Text.Cutting
import RoverLink.Toml.Reader

/-!
# Unquoted scalars that are read back

The texts of truth values, integers and numbers are no dates and no times, and
stand for the value that was written (`isBare_flag`, `isBare_signed`,
`isBare_pointed`).  A number is read as itself, whether it is finite or not,
except that one of the values that are not a number stands for all of them.
-/

namespace RoverLink.Toml

open Decimal

/-- Whether a text is read as one unquoted scalar. -/
structure IsBare (text : List Char) (document : Document) : Prop where
  nonempty : text ≠ []
  ofScalar : ∀ character ∈ text, isScalarChar character = true
  noDate : isDate text = false
  reads : scalar? text = some document

/-! ### Digits -/

theorem grouped?_of_isDigit
    {text : List Char}
    (nonempty : text ≠ [])
    (isDigit : ∀ character ∈ text, character.isDigit = true) :
    grouped? Char.isDigit text = some text := by
  induction text with
  | nil => exact (nonempty rfl).elim
  | cons first rest induction =>
    rcases List.forall_mem_cons.mp isDigit with ⟨digit, others⟩
    cases rest with
    | nil => simp [grouped?, digit]
    | cons second rest =>
      have next : second ≠ '_' := by
        rintro rfl
        have := others '_' (by simp)
        simp [Char.isDigit] at this
      rw [grouped?, if_pos digit, induction (List.cons_ne_nil second rest) others]
      · rfl
      · simp
      · rintro behind ⟨⟩
        exact next rfl

theorem unsigned?_digits (number : Nat) : unsigned? (digits number) = some (digits number) := by
  rw [unsigned?, grouped?_of_isDigit (digits_ne_nil number) fun _ => isDigit_of_mem_digits]
  by_cases zero : number = 0
  · subst zero
    rfl
  · have first := head?_digits_ne_zero (Nat.pos_of_ne_zero zero)
    split
    next next rest same =>
      rw [Option.some.inj same] at first
      exact (first rfl).elim
    next => rfl

theorem splitSign_digits (number : Nat) (rest : List Char) :
    splitSign (digits number ++ rest) = (false, digits number ++ rest) := by
  rcases exists_digits_eq_cons number with ⟨first, others, split, digit⟩
  rw [split, List.cons_append, splitSign]
  · rintro behind ⟨⟩
    simp [Char.isDigit] at digit
  · rintro behind ⟨⟩
    simp [Char.isDigit] at digit

theorem splitSign_withSign (negative : Bool) (number : Nat) (rest : List Char) :
    splitSign (Binary64.withSign negative (digits number ++ rest)) =
      (negative, digits number ++ rest) := by
  cases negative with
  | true => rfl
  | false => exact splitSign_digits number rest

/-! ### No dates and no words -/

/-- Whether a text has nothing but digits and points after its first character. -/
def IsNumeric (text : List Char) : Prop :=
  (∀ character ∈ text, character.isDigit = true ∨ character = '.' ∨ character = '-') ∧
    ∀ character ∈ text.tail, character.isDigit = true ∨ character = '.'

theorem mem_of_twoDigits?
    {text rest : List Char}
    {low high value : Nat}
    {character : Char}
    (found : twoDigits? low high text = some (value, rest))
    (inside : character ∈ rest) :
    character ∈ text := by
  cases text with
  | nil => simp [twoDigits?] at found
  | cons first behind =>
    cases behind with
    | nil => simp [twoDigits?] at found
    | cons second behind =>
      simp only [twoDigits?, Option.ite_none_right_eq_some, Option.some.injEq,
        Prod.mk.injEq] at found
      simp [found.2.2, inside]

section

variable {text : List Char} (numeric : IsNumeric text)

include numeric

theorem IsNumeric.toNat_lt
    {character : Char}
    (inside : character ∈ text) :
    character.toNat < ':'.toNat := by
  rcases numeric.1 character inside with digit | rfl | rfl
  · simp only [Char.isDigit, Bool.and_eq_true, decide_eq_true_eq, ge_iff_le,
      UInt32.le_iff_toNat_le] at digit
    exact Nat.lt_succ_of_le digit.2
  · decide
  · decide

/-- A number has no minus behind its year. -/
theorem IsNumeric.afterDate? : Toml.afterDate? text = none := by
  have behind (rest : List Char) : text.drop 4 ≠ '-' :: rest := by
    intro minus
    have inside : '-' ∈ text.tail := by
      rw [← List.drop_one]
      refine List.mem_of_mem_drop (i := 3) ?_
      simp [minus]
    rcases numeric.2 '-' inside with digit | point
    · simp [Char.isDigit] at digit
    · simp at point
  simp only [Toml.afterDate?]
  split <;> rfl

/-- A number has no colon behind its hour. -/
theorem IsNumeric.isTime (zoned : Bool) : Toml.isTime zoned text = false := by
  have colon : afterTime? text = none := by
    cases hour : twoDigits? 0 23 text with
    | none => simp [afterTime?, hour]
    | some found =>
      rcases found with ⟨value, rest⟩
      have other (behind : List Char) : rest ≠ ':' :: behind := by
        rintro rfl
        exact absurd (numeric.toNat_lt (mem_of_twoDigits? hour List.mem_cons_self)) (by decide)
      simp only [afterTime?, hour, Option.bind_eq_bind, Option.bind_some]
  simp [Toml.isTime, colon]

/-- A number is no word, since words have letters. -/
theorem IsNumeric.word? : Toml.word? text = none := by
  have alpha (word : String) (letter : Char) (inside : letter ∈ word.toList)
      (isLetter : ¬letter.toNat < ':'.toNat) : String.ofList text ≠ word := by
    rintro rfl
    rw [String.toList_ofList] at inside
    exact isLetter (numeric.toNat_lt inside)
  rw [Toml.word?]
  split
  next same => exact (alpha _ 't' (by decide) (by decide) same).elim
  next same => exact (alpha _ 'f' (by decide) (by decide) same).elim
  next same => exact (alpha _ 'f' (by decide) (by decide) same).elim
  next same => exact (alpha _ 'f' (by decide) (by decide) same).elim
  next same => exact (alpha _ 'f' (by decide) (by decide) same).elim
  next same => exact (alpha _ 'n' (by decide) (by decide) same).elim
  next same => exact (alpha _ 'n' (by decide) (by decide) same).elim
  next same => exact (alpha _ 'n' (by decide) (by decide) same).elim
  next => rfl

end

/-- A text of digits and points is read as the number or integer that it has the form of. -/
theorem IsNumeric.isBare
    {text : List Char}
    (numeric : IsNumeric text)
    (nonempty : text ≠ [])
    {document : Document}
    (reads : (match number? text with
      | some document => some document
      | none => integer? text) = some document) :
    IsBare text document where
  nonempty := nonempty
  ofScalar character inside := by
    rcases numeric.1 character inside with digit | rfl | rfl
    · simp [isScalarChar, Char.isAlphanum, digit]
    · decide
    · decide
  noDate := by simp [isDate, numeric.afterDate?]
  reads := by
    rw [scalar?, isMoment, numeric.afterDate?]
    simp only [numeric.isTime, numeric.word?]
    exact reads

theorem isNumeric_withSign
    (negative : Bool)
    {text : List Char}
    (each : ∀ character ∈ text, character.isDigit = true ∨ character = '.') :
    IsNumeric (Binary64.withSign negative text) := by
  cases negative with
  | true =>
    refine ⟨?_, each⟩
    exact List.forall_mem_cons.mpr ⟨.inr (.inr rfl), fun character inside =>
      (each character inside).imp_right .inl⟩
  | false =>
    exact ⟨fun character inside => (each character inside).imp_right .inl,
      fun character inside => each character (List.mem_of_mem_tail inside)⟩

/-! ### Integers -/

theorem signed_eq_withSign (value : Int) :
    signed value = Binary64.withSign (decide (value < 0)) (digits value.natAbs) := by
  cases value with
  | ofNat magnitude => simp [Binary64.withSign, signed]
  | negSucc below => simp [Binary64.withSign, signed, Int.negSucc_lt_zero]

/-- A text of digits and a point has no exponent. -/
theorem takeWhile_noMark
    {text : List Char}
    (each : ∀ character ∈ text, character.isDigit = true ∨ character = '.') :
    (text.takeWhile fun character => !(character == 'e' || character == 'E')) = text ∧
      (text.dropWhile fun character => !(character == 'e' || character == 'E')) = [] := by
  have noMark : ∀ character ∈ text, (!(character == 'e' || character == 'E')) = true := by
    intro character inside
    rcases each character inside with digit | rfl
    · by_contra mark
      simp only [Bool.not_eq_true', Bool.or_eq_false_iff, beq_eq_false_iff_ne, not_and_or,
        not_not] at mark
      rcases mark with rfl | rfl <;> simp [Char.isDigit] at digit
    · rfl
  exact ⟨List.takeWhile_eq_self_iff.mpr noMark, List.dropWhile_eq_nil_iff.mpr noMark⟩

theorem point_not_mem_digits (number : Nat) : '.' ∉ digits number :=
  fun point => absurd (isDigit_of_mem_digits point) (by decide)

theorem digit_or_point_of_mem_digits
    {number : Nat}
    {character : Char}
    (inside : character ∈ digits number) :
    character.isDigit = true ∨ character = '.' :=
  .inl (isDigit_of_mem_digits inside)

theorem number?_digits (negative : Bool) (number : Nat) :
    number? (Binary64.withSign negative (digits number)) = none := by
  have parts := splitSign_withSign negative number []
  rw [List.append_nil] at parts
  have noMark := @takeWhile_noMark (digits number) fun _ => digit_or_point_of_mem_digits
  have noPoint := Text.ne_of_absent (point_not_mem_digits number)
  have before := List.takeWhile_eq_self_iff.mpr noPoint
  have behind := List.dropWhile_eq_nil_iff.mpr noPoint
  simp only [number?, parts, noMark, before, behind, unsigned?_digits, Option.bind_eq_bind,
    Option.bind_some]
  rfl

theorem isNumeric_digits (negative : Bool) (number : Nat) :
    IsNumeric (Binary64.withSign negative (digits number)) :=
  isNumeric_withSign negative fun _ => digit_or_point_of_mem_digits

/-- A decimal integer has no letter for another base. -/
theorem integer?_digits (negative : Bool) (number : Nat) :
    integer? (Binary64.withSign negative (digits number)) =
      wholeDocument? (if negative then -number else number) := by
  have parts := splitSign_withSign negative number []
  rw [List.append_nil] at parts
  have noLetter {letter : Char} {rest : List Char} (isLetter : ¬letter.toNat < ':'.toNat) :
      Binary64.withSign negative (digits number) ≠ '0' :: letter :: rest := by
    intro same
    have inside : letter ∈ Binary64.withSign negative (digits number) := by simp [same]
    exact isLetter ((isNumeric_digits negative number).toNat_lt inside)
  rw [integer?.eq_def]
  split
  next same => exact (noLetter (by decide) same).elim
  next same => exact (noLetter (by decide) same).elim
  next same => exact (noLetter (by decide) same).elim
  next => simp [parts, unsigned?_digits]

theorem isBare_signed
    {value : Int}
    (fits : (Word.int64? value).isSome = true) :
    IsBare (signed value) (.whole value) := by
  rcases Option.isSome_iff_exists.mp fits with ⟨word, ofWord⟩
  have same : (if decide (value < 0) = true then -(value.natAbs : Int) else value.natAbs) =
      value := by
    simp only [decide_eq_true_eq]
    omega
  rw [signed_eq_withSign]
  refine (isNumeric_digits _ _).isBare ?nonempty ?reads
  case nonempty =>
    rw [← signed_eq_withSign]
    exact signed_ne_nil value
  case reads =>
    rw [number?_digits]
    simp only [integer?_digits, same, wholeDocument?, ofWord, Option.map_some]

/-! ### Numbers -/

section

variable (whole : Nat)
  {fraction : List Char}
  (nonempty : fraction ≠ [])
  (isDigit : ∀ character ∈ fraction, character.isDigit = true)

include isDigit

theorem digit_or_point_of_mem_pointed :
    ∀ character ∈ digits whole ++ '.' :: fraction,
      character.isDigit = true ∨ character = '.' := by
  intro character inside
  rcases List.mem_append.mp inside with digit | inside
  · exact .inl (isDigit_of_mem_digits digit)
  rcases List.mem_cons.mp inside with point | digit
  · exact .inr point
  · exact .inl (isDigit character digit)

include nonempty

theorem number?_pointed (negative : Bool) :
    number? (Binary64.withSign negative (digits whole ++ '.' :: fraction)) =
      let number :=
        Binary64.ofDecimal negative (ofDigits (digits whole ++ fraction)) (-fraction.length)
      if number = Binary64.infinity false then none else some (.real number) := by
  have parts := splitSign_withSign negative whole ('.' :: fraction)
  have noMark := takeWhile_noMark (digit_or_point_of_mem_pointed whole isDigit)
  have before := Text.takeWhile_ne_append (point_not_mem_digits whole) fraction
  have behind := Text.dropWhile_ne_append (point_not_mem_digits whole) fraction
  simp only [number?, parts, noMark, before, behind, unsigned?_digits,
    grouped?_of_isDigit nonempty isDigit, Option.bind_eq_bind, Option.bind_some, Option.map_some]
  simp

end

theorem withSign_ne_nil (negative : Bool) {text : List Char} (nonempty : text ≠ []) :
    Binary64.withSign negative text ≠ [] := by
  cases negative with
  | true => exact List.cons_ne_nil '-' text
  | false => exact nonempty

/-- A finite number is read as itself. -/
theorem isBare_pointed_of_isFinite
    {number : Binary64}
    (finite : number.isFinite = true) :
    IsBare number.pointed (.real number) := by
  have bounded : number.exponentField ≠ 2047 := of_decide_eq_true finite
  have written : number.pointed = Binary64.withSign number.isNegative
      (Binary64.positional (number.shortest .upward) ".0".toList) := by
    rw [Binary64.pointed, Binary64.view, if_neg bounded]
  have kept : number ≠ Binary64.infinity false := by
    rintro rfl
    exact absurd finite (by decide)
  have isPointed := Binary64.isPointed_positional (number.shortest .upward)
  have exact {significand : Nat} {exponent : Int} :=
    @Binary64.ofDecimal_of_value_eq number finite .upward significand exponent
  rw [written]
  generalize Binary64.positional (number.shortest .upward) ".0".toList = text at isPointed
  generalize (number.shortest .upward).value = value at isPointed exact
  cases isPointed with
  | intro whole nonempty isDigit =>
    have numeric := isNumeric_withSign number.isNegative
      (digit_or_point_of_mem_pointed whole isDigit)
    refine numeric.isBare (withSign_ne_nil _ (by simp)) ?_
    rw [number?_pointed whole nonempty isDigit]
    simp only [exact rfl, if_neg kept]

/-- An infinity is its sign. -/
theorem eq_infinity_of_view
    {number : Binary64}
    {negative : Bool}
    (view : number.view = .infinite negative) :
    number = Binary64.infinity negative := by
  rw [Binary64.view] at view
  split at view
  next maximal =>
    split at view
    next zero =>
      have same := number.ofMagnitude_fields
      rw [maximal, zero, Binary64.View.infinite.inj view] at same
      exact same.symm
    next => cases view
  next => cases view

theorem isBare_infinite (negative : Bool) :
    IsBare (Binary64.withSign negative "inf".toList) (.real (Binary64.infinity negative)) := by
  cases negative with
  | true => exact ⟨by decide, List.all_eq_true.mp (by decide), by decide, rfl⟩
  | false => exact ⟨by decide, List.all_eq_true.mp (by decide), by decide, rfl⟩

theorem isBare_nan : IsBare "nan".toList (.real Binary64.notANumber) :=
  ⟨by decide, List.all_eq_true.mp (by decide), by decide, rfl⟩

theorem isBare_flag (value : Bool) :
    IsBare (if value then "true".toList else "false".toList) (.flag value) := by
  cases value with
  | true => exact ⟨by decide, List.all_eq_true.mp (by decide), by decide, rfl⟩
  | false => exact ⟨by decide, List.all_eq_true.mp (by decide), by decide, rfl⟩

/-- The number that is read for a number: all that are none have the same text. -/
def rereadReal (number : Binary64) : Binary64 :=
  match number.view with
  | .notANumber => .notANumber
  | _ => number

theorem isBare_pointed (number : Binary64) : IsBare number.pointed (.real (rereadReal number)) := by
  cases view : number.view with
  | notANumber =>
    simp only [Binary64.pointed, rereadReal, view]
    exact isBare_nan
  | infinite negative =>
    simp only [Binary64.pointed, rereadReal, view]
    rw [eq_infinity_of_view view]
    exact isBare_infinite negative
  | finite negative units =>
    simp only [rereadReal, view]
    exact isBare_pointed_of_isFinite (number.isFinite_iff.mpr ⟨negative, units, view⟩)

/-! ### Reading -/

/-- An unquoted scalar is read up to the end of its line. -/
theorem readValue_of_isBare
    {text : List Char}
    {document : Document}
    (bare : IsBare text document)
    (nesting : Nat)
    (rest : List Char) :
    readValue (nesting + 1) (text ++ '\n' :: rest) = some (document, '\n' :: rest) := by
  have stops : ∀ character ∈ ('\n' :: rest).head?, isScalarChar character = false := by
    rintro character ⟨⟩
    decide
  have scalar := Text.takeWhile_append_of_stops bare.ofScalar stops
  have behind := Text.dropWhile_append_of_stops bare.ofScalar stops
  have reads : readScalar (text ++ '\n' :: rest) = some (document, '\n' :: rest) := by
    simp [readScalar, scalar, behind, bare.noDate, bare.reads]
  cases text with
  | nil => exact (bare.nonempty rfl).elim
  | cons first others =>
    have other {mark : Char} (outside : isScalarChar mark = false) : first ≠ mark := by
      rintro rfl
      simp [bare.ofScalar first List.mem_cons_self] at outside
    have unquoted : ¬(first = '"' ∨ first = '\'') :=
      not_or.mpr ⟨other (by decide), other (by decide)⟩
    rw [List.cons_append] at reads ⊢
    rw [readValue, if_neg unquoted, reads]
    · exact other (by decide)
    · exact other (by decide)

end RoverLink.Toml
