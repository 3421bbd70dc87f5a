import RoverLink.Motor
import RoverLink.Proofs.Json.Rounded
import RoverLink.Proofs.Reply.Grammar

/-!
# Integers of a reply

The values of a reply are numbers, so an integer on the line arrives as the
nearest integer that is a number, if this one fits in 64 bits, and is refused if
it does not (`conveys_integers`).  Up to half a step beyond the words of 64 bits
the nearest one still fits below, and no longer fits above.
-/

namespace RoverLink

open Decimal

/-! ### Rounding and words -/

namespace Decimal.Binary64

theorem rounded_of_sign (negative : Bool) (magnitude : Nat) :
    rounded (if negative then -(magnitude : Int) else magnitude) =
      if negative then -(roundedWhole magnitude : Int) else roundedWhole magnitude := by
  cases negative with
  | false =>
    simp only [Bool.false_eq_true, if_false]
    rw [rounded, if_neg (by omega), Int.natAbs_natCast]
  | true =>
    simp only [if_true]
    by_cases zero : magnitude = 0
    · subst zero
      rfl
    · rw [rounded, if_pos (by omega), Int.natAbs_neg, Int.natAbs_natCast]

theorem natAbs_of_toInt?
    {number : Binary64}
    {negative : Bool}
    {units : Nat}
    (view : number.view = .finite negative units)
    {whole : Int}
    (stands : number.toInt? = some whole) :
    whole.natAbs = units / unitsPerOne := by
  simp only [toInt?, view] at stands
  split at stands
  next =>
    cases stands
    split
    · rw [Int.natAbs_neg, Int.natAbs_natCast]
    · rw [Int.natAbs_natCast]
  next => cases stands

end Decimal.Binary64

namespace Reply

/-! ### One integer -/

/--
How an integer on the line arrives: as the nearest integer that is a number, which is the same one
if it is a number itself, or not at all.
-/
inductive Conveys (reply : Reply) (index : Nat) (integer : Int) : Prop where
  | rounded {word : Int64}
      (low : -0x8000000000000000 - 1024 ≤ integer)
      (high : integer ≤ 0x8000000000000000 - 513)
      (received : reply.integer index = .ok word)
      (value : word.toInt = Binary64.rounded integer)
      (isWhole : Binary64.IsWhole word.toInt)
      (nearest : ∀ other, Binary64.IsWhole other →
        (integer - word.toInt).natAbs ≤ (integer - other).natAbs)
      (exactly : Binary64.IsWhole integer → word.toInt = integer)
      (small : integer.natAbs ≤ Binary64.greatestWhole → word.toInt = integer) :
      Conveys reply index integer
  | refused
      (beyond : integer < -0x8000000000000000 - 1024 ∨ 0x8000000000000000 - 513 < integer)
      (refusal : reply.integer index = .error (reply.missing index "an integer")) :
      Conveys reply index integer

section

variable {reply : Reply} {index : Nat} {number : Binary64}
  (place : reply.values[index]? = some (.number number))

include place

theorem integer_of_number :
    reply.integer index =
      (number.toInt?.bind Word.int64?).elim (.error (reply.missing index "an integer")) .ok := by
  have stands : reply.number index = .ok number := by
    simp [Reply.number, place, ReplyValue.number?]
  rw [integer, stands]
  dsimp only
  cases number.toInt?.bind Word.int64? <;> rfl

theorem conveys_of_isReadAs
    {negative : Bool}
    {magnitude : Nat}
    (isReadAs : Json.IsReadAs negative magnitude number) :
    reply.Conveys index (if negative then -(magnitude : Int) else magnitude) := by
  have asked := integer_of_number place
  cases isReadAs with
  | rounded fits view =>
    have whole := Binary64.toInt?_of_view view
    rw [← Binary64.rounded_of_sign] at whole
    have range : (if negative then -(magnitude : Int) else magnitude).natAbs <
        0x10000000000000000 := by
      rw [Word.count64] at fits
      split <;> omega
    generalize (if negative then -(magnitude : Int) else magnitude) = integer at whole range ⊢
    have bounds := Binary64.rounded_fits_iff range
    rw [whole, Option.bind_some] at asked
    by_cases small : -0x8000000000000000 ≤ Binary64.rounded integer ∧
        Binary64.rounded integer < 0x8000000000000000
    · have word : Word.int64? (Binary64.rounded integer) =
          some (Int64.ofInt (Binary64.rounded integer)) := if_pos small
      have same := Word.toInt_of_int64? word
      rw [word] at asked
      have isWhole : Binary64.IsWhole (Int64.ofInt (Binary64.rounded integer)).toInt :=
        ⟨number, by rw [whole, same]⟩
      have exactly : Binary64.IsWhole integer →
          (Int64.ofInt (Binary64.rounded integer)).toInt = integer :=
        fun isWhole => same.trans (Binary64.rounded_eq_of_isWhole isWhole)
      refine .rounded (bounds.mp small).1 (bounds.mp small).2 asked same isWhole ?nearest exactly
        fun few => exactly (Binary64.isWhole_of_le_greatestWhole few)
      intro other otherWhole
      rw [same]
      exact Binary64.natAbs_sub_rounded_le integer otherWhole
    · have none : Word.int64? (Binary64.rounded integer) = none := if_neg small
      rw [none] at asked
      have beyond := mt bounds.mpr small
      exact .refused (by omega) asked
  | @beyond sign units exceeds view large =>
    have none : number.toInt?.bind Word.int64? = none := by
      rw [Option.bind_eq_none_iff]
      intro whole stands
      have magnitude := Binary64.natAbs_of_toInt? view stands
      have least := (Nat.le_div_iff_mul_le Binary64.unitsPerOne_pos).mpr large
      rw [← magnitude, Nat.pow_eq] at least
      exact if_neg (by omega)
    rw [none] at asked
    refine .refused ?_ asked
    rw [Word.count64] at exceeds
    split <;> omega

end

/-! ### All integers of a line -/

/-- The document of an integer in decimal. -/
def IsDigits (document : Document) (integer : Int) : Prop :=
  ∃ negative magnitude,
    integer = (if negative then -(magnitude : Int) else magnitude) ∧
      document = Json.Numeral.toDocument ⟨negative, digits magnitude, none, none⟩

theorem exists_documents
    {numerals : List (List Char)}
    {integers : List Int}
    (written : List.Forall₂ IsDecimal numerals integers) :
    ∃ documents, List.Forall₂ Json.IsToken numerals documents ∧
      List.Forall₂ IsDigits documents integers := by
  induction written with
  | nil => exact ⟨[], .nil, .nil⟩
  | cons first _ induction =>
    rcases Json.exists_isToken_of_isDecimal first with ⟨negative, magnitude, value, token⟩
    rcases induction with ⟨documents, tokens, digits⟩
    exact ⟨_ :: documents, .cons token tokens, .cons ⟨negative, magnitude, value, rfl⟩ digits⟩

theorem forall₂_of_readValues
    {documents : List Document}
    {values : List ReplyValue}
    (reads : readValues documents = .ok values) :
    List.Forall₂ (fun document value => readValue document = .ok value) documents values := by
  induction documents generalizing values with
  | nil =>
    cases reads
    exact .nil
  | cons document rest induction =>
    rw [readValues] at reads
    split at reads
    next => cases reads
    next value first =>
      split at reads
      next => cases reads
      next others later =>
        cases reads
        exact .cons first (induction later)

/-- The line of a reply that reports success and has the given integers as its values. -/
def integerLine (numerals : List (List Char)) : List Char :=
  '#' :: '[' :: '0' :: numerals.flatMap (',' :: ·) ++ [']']

theorem not_mem_joined_of_isDecimal
    {numerals : List (List Char)}
    {integers : List Int}
    (written : List.Forall₂ IsDecimal numerals integers) :
    ']' ∉ Json.joined ['0'] numerals := by
  have values : ∀ numeral ∈ numerals, ']' ∉ numeral := by
    have absent := written.imp fun _ _ isDecimal =>
      And.intro (not_mem_of_isDecimal isDecimal) isDecimal
    exact ((List.forall₂_and_left numerals integers).mp absent).1
  simpa [Json.joined] using values

/-- The values of such a line are what its integers are read as. -/
theorem exists_documents_of_read
    {numerals : List (List Char)}
    {integers : List Int}
    (written : List.Forall₂ IsDecimal numerals integers)
    {reply : Reply}
    (decoded : read (integerLine numerals) = .ok reply) :
    ∃ documents, List.Forall₂ IsDigits documents integers ∧
      List.Forall₂ (fun document value => readValue document = .ok value)
        documents reply.values := by
  rcases exists_documents written with ⟨documents, tokens, digits⟩
  have zero : Json.IsItem (signed 0) (.whole 0) := Json.isItem_signed (by decide) (by decide)
  have closes := not_mem_joined_of_isDecimal written
  have line : integerLine numerals = (Layout.plain closes []).text := by
    simp [integerLine, Layout.plain, Layout.text, Json.joined]
  have list : (Layout.plain closes []).list =
      '[' :: (Json.joined (signed 0) numerals ++ [']']) := rfl
  rw [line, read_text, ofParts, list, readList, Json.read?_list zero.toIsToken tokens] at decoded
  refine ⟨documents, digits, ?_⟩
  simp only at decoded
  split at decoded
  next => cases decoded
  next unreadable =>
    split at unreadable <;> cases unreadable
  next first rest items =>
    split at items
    next =>
      cases items
      split at decoded
      next => cases decoded
      next =>
        split at decoded
        next => cases decoded
        next values reads =>
          cases decoded
          exact forall₂_of_readValues reads
    next => cases items

/-- What a reply of integers tells of them. -/
structure ConveysAll (integers : List Int) (reply : Reply) : Prop where
  count : reply.values.length = integers.length
  /-- Every integer arrives rounded, or is refused. -/
  each : ∀ index integer, integers[index]? = some integer → reply.Conveys index integer
  /-- The counts of the encoders are the first two integers as they arrive. -/
  encoders : ∀ {Stream : Type} [ByteStream Stream] (motor : Motor Stream) (clock : Clock),
    (motor.execute (.query 'e' (Eq.refl true)) clock).result = .ok reply →
      (motor.readEncoders clock).result = do
        let left ← reply.integer 0
        let right ← reply.integer 1
        return (left, right)

/-- No integer of a line arrives as another one, unless it has to be rounded. -/
theorem conveys_integers
    {numerals : List (List Char)}
    {integers : List Int}
    (written : List.Forall₂ IsDecimal numerals integers)
    {reply : Reply}
    (decoded : read (integerLine numerals) = .ok reply) :
    ConveysAll integers reply := by
  rcases exists_documents_of_read written decoded with ⟨documents, digits, values⟩
  constructor
  case count => rw [← values.length_eq, digits.length_eq]
  case each =>
    intro index integer place
    rcases List.getElem?_eq_some_iff.mp place with ⟨inside, rfl⟩
    have document : index < documents.length := digits.length_eq ▸ inside
    have value : index < reply.values.length := values.length_eq ▸ document
    rcases digits.get document inside with ⟨negative, magnitude, sign, written⟩
    have reads := values.get document value
    simp only [List.get_eq_getElem] at sign written reads
    rw [written] at reads
    rcases Json.exists_isReadAs_of_readValue reads with ⟨number, same, isReadAs⟩
    rw [sign]
    exact conveys_of_isReadAs (by rw [List.getElem?_eq_getElem value, same]) isReadAs
  case encoders =>
    intro Stream _ motor clock answered
    simp only [Motor.readEncoders, Step.map, Motor.readEncoderValues, answered,
      EncoderValues.ofReply]
    cases reply.integer 0 with
    | error error => rfl
    | ok left =>
      cases reply.integer 1 with
      | error error => rfl
      | ok right => rfl

/-- An integer between two numbers, and one that is just below the words of 64 bits. -/
def betweenNumbers : List Int :=
  [9007199254740993, -9223372036854775809]

/-- Both arrive as other integers, also the one that does not fit. -/
theorem exists_integer_ne :
    integerLine (betweenNumbers.map signed) =
        "#[0,9007199254740993,-9223372036854775809]".toList ∧
      ∃ reply,
        read (integerLine (betweenNumbers.map signed)) = .ok reply ∧
          (∃ word, reply.integer 0 = .ok word ∧ word.toInt ≠ 9007199254740993) ∧
          ∃ word, reply.integer 1 = .ok word ∧ word.toInt ≠ -9223372036854775809 := by
  refine ⟨by decide +kernel, ⟨0, [.number ⟨0x4340000000000000⟩, .number ⟨0xc3e0000000000000⟩],
    none, none⟩, by decide +kernel, ⟨9007199254740992, ?_, by decide⟩,
    ⟨-9223372036854775808, ?_, by decide⟩⟩ <;> decide +kernel

theorem conveys_integers_between :
    List.Forall₂ IsDecimal (betweenNumbers.map signed) betweenNumbers ∧
      ∃ reply,
        read (integerLine (betweenNumbers.map signed)) = .ok reply ∧
          ConveysAll betweenNumbers reply := by
  have written : List.Forall₂ IsDecimal (betweenNumbers.map signed) betweenNumbers := by
    rw [List.forall₂_map_left_iff, List.forall₂_same]
    exact fun integer _ => isDecimal_signed integer
  have decoded : read (integerLine (betweenNumbers.map signed)) =
      .ok ⟨0, [.number ⟨0x4340000000000000⟩, .number ⟨0xc3e0000000000000⟩], none, none⟩ := by
    decide +kernel
  exact ⟨written, _, decoded, conveys_integers written decoded⟩

end Reply

end RoverLink
