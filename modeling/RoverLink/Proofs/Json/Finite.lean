import RoverLink.Document.Record
import RoverLink.Proofs.Decimal.Rounding
import RoverLink.Json.Reader

/-!
# The numbers of a JSON text

Whatever number stands in a JSON text, it is finite when it has been read
(`finite_of_read?`): a product that is infinite is not read, and a division
never makes a number larger, as a power of ten is at least one.
-/

namespace RoverLink

open Decimal

/-- Whether every number in a document is finite, for an integer after it is rounded. -/
inductive Document.HasFiniteNumbers : Document → Prop where
  | null : HasFiniteNumbers .null
  | flag (value : Bool) : HasFiniteNumbers (.flag value)
  | whole {value : Int} (small : value.natAbs < Word.count64) : HasFiniteNumbers (.whole value)
  | real {value : Binary64} (finite : value.isFinite = true) : HasFiniteNumbers (.real value)
  | text (value : String) : HasFiniteNumbers (.text value)
  | list {items : List Document} (each : ∀ item ∈ items, HasFiniteNumbers item) :
      HasFiniteNumbers (.list items)
  | record {fields : List (String × Document)} (each : ∀ field ∈ fields, HasFiniteNumbers field.2) :
      HasFiniteNumbers (.record fields)
  | unreadable : HasFiniteNumbers .unreadable

/-! ### Quotients by powers of ten -/

namespace Decimal.Binary64

/-- Whether a number is finite and has at most a count of units. -/
def IsBounded (number : Binary64) (most : Nat) : Prop :=
  ∃ negative units, number.view = .finite negative units ∧ units ≤ most

theorem IsBounded.isFinite {number : Binary64} {most : Nat} (bounded : number.IsBounded most) :
    number.isFinite = true := by
  rcases bounded with ⟨negative, units, view, _⟩
  exact number.isFinite_iff.mpr ⟨negative, units, view⟩

theorem isBounded_ofRatio
    (negative : Bool)
    {numerator denominator power : Nat}
    (least : 53 ≤ power)
    (most : power ≤ 2097)
    (small : numerator * unitsPerOne / denominator < Nat.pow 2 power) :
    (ofRatio negative numerator denominator).IsBounded (Nat.pow 2 power) := by
  cases roundsTo_ofRatio negative numerator denominator with
  | infinite large => exact absurd (large power most) (Nat.not_le.mpr small)
  | @finite units view _ bounded => exact ⟨negative, units, view, bounded least small⟩

theorem isBounded_zero (negative : Bool) (most : Nat) : (zero negative).IsBounded most := by
  have view := @view_ofMagnitude_of_fields negative 0 0
    (by decide) (by decide) (by decide)
  rw [Nat.zero_mul] at view
  exact ⟨negative, 0, view, Nat.zero_le most⟩

/-- Whether a number is at least one, or infinite. -/
inductive IsAtLeastOne (number : Binary64) : Prop where
  | infinite {negative : Bool} (view : number.view = .infinite negative) : IsAtLeastOne number
  | finite {negative : Bool} {units : Nat}
      (view : number.view = .finite negative units)
      (least : unitsPerOne ≤ units) :
      IsAtLeastOne number

/-- A division by one or more at most doubles the bound, by rounding up to a power of two. -/
theorem isBounded_div
    {left right : Binary64}
    {power : Nat}
    (bounded : left.IsBounded (Nat.pow 2 power))
    (atLeastOne : right.IsAtLeastOne)
    (least : 53 ≤ power + 1)
    (most : power + 1 ≤ 2097) :
    (left / right).IsBounded (Nat.pow 2 (power + 1)) := by
  rcases bounded with ⟨negative, units, leftView, small⟩
  have more : Nat.pow 2 power < Nat.pow 2 (power + 1) :=
    Nat.pow_lt_pow_right (by decide) (Nat.lt_succ_self _)
  change (div left right).IsBounded _
  cases atLeastOne with
  | infinite rightView =>
    simp only [div, leftView, rightView]
    exact isBounded_zero _ _
  | @finite _ divisor rightView one =>
    have positive := unitsPerOne_pos
    have quotient : units * unitsPerOne / divisor < Nat.pow 2 (power + 1) := by
      apply Nat.div_lt_of_lt_mul
      calc units * unitsPerOne ≤ units * divisor := Nat.mul_le_mul_left _ one
        _ = divisor * units := Nat.mul_comm _ _
        _ < divisor * Nat.pow 2 (power + 1) :=
          Nat.mul_lt_mul_of_pos_left (Nat.lt_of_le_of_lt small more)
            (Nat.lt_of_lt_of_le positive one)
    simp only [div, leftView, rightView, if_neg (Nat.ne_of_gt (Nat.lt_of_lt_of_le positive one))]
    exact isBounded_ofRatio _ least most quotient

end Decimal.Binary64

namespace Json

theorem isAtLeastOne_powerOfTen (power : Nat) : (powerOfTen power).IsAtLeastOne := by
  rcases Binary64.exists_unitsPerOne_eq with ⟨exponent, value, same⟩
  have least : Nat.pow 2 exponent ≤ Nat.pow 10 power * Binary64.unitsPerOne / 1 := by
    rw [Nat.div_one, same]
    exact Nat.le_mul_of_pos_left _ (Nat.pow_pos (by decide))
  cases Binary64.roundsTo_ofRatio false (Nat.pow 10 power) 1 with
  | infinite _ view => exact .infinite view
  | finite view lower _ =>
    refine .finite view ?_
    rw [same]
    exact lower least

/-- The significand of a number fits in a word. -/
theorem gather_fst_lt
    {significand : Nat}
    (fits : significand < Word.count64)
    (digits : List Char) :
    (gather significand digits).1 < Word.count64 := by
  induction digits generalizing significand with
  | nil => exact fits
  | cons digit rest induction =>
    rw [gather]
    split
    next longer => exact induction longer
    next => exact fits

theorem scaled_fst_lt (numeral : Numeral) : numeral.scaled.1 < Word.count64 :=
  gather_fst_lt (gather_fst_lt (by decide) _) _

theorem isFinite_of_magnify?
    {number product : Binary64}
    {power : Nat}
    (made : magnify? number power = some product) :
    product.isFinite = true := by
  simp only [magnify?] at made
  split at made
  next =>
    split at made
    next finite =>
      cases made
      exact finite
    next => simp at made
  next => simp at made

/-- An integer of one word is far below the greatest number, and so are all its quotients. -/
theorem isBounded_ofRatio_one
    (negative : Bool)
    {magnitude : Nat}
    (fits : magnitude < Word.count64) :
    (Binary64.ofRatio negative magnitude 1).IsBounded (Nat.pow 2 1138) := by
  rcases Binary64.exists_unitsPerOne_eq with ⟨exponent, value, same⟩
  apply Binary64.isBounded_ofRatio negative (by decide) (by decide)
  rw [Nat.div_one, same, show 1138 = 64 + exponent by omega, Nat.pow_eq,
    Nat.pow_eq, Nat.pow_add]
  exact Nat.mul_lt_mul_of_pos_right fits (Nat.two_pow_pos exponent)

theorem isFinite_reduce
    {number : Binary64}
    (bounded : number.IsBounded (Nat.pow 2 1138))
    (power : Nat) :
    (reduce number power).isFinite = true := by
  have once (divisor : Nat) :=
    Binary64.isBounded_div bounded (isAtLeastOne_powerOfTen divisor) (by decide) (by decide)
  rw [reduce]
  split
  next => exact (once power).isFinite
  next =>
    split
    next =>
      have twice := Binary64.isBounded_div (once greatestPower)
        (isAtLeastOne_powerOfTen (power - greatestPower)) (by decide) (by decide)
      exact twice.isFinite
    next => exact (Binary64.isBounded_zero _ 0).isFinite

theorem isFinite_of_toBinary64?
    {numeral : Numeral}
    {number : Binary64}
    (made : numeral.toBinary64? = some number) :
    number.isFinite = true := by
  have bounded := isBounded_ofRatio_one numeral.negative (scaled_fst_lt numeral)
  simp only [Numeral.toBinary64?] at made
  split at made
  next =>
    cases made
    exact bounded.isFinite
  next =>
    split at made
    next => exact isFinite_of_magnify? made
    next =>
      cases made
      exact isFinite_reduce bounded _

theorem natAbs_lt_of_toInteger?
    {numeral : Numeral}
    {integer : Int}
    (kept : numeral.toInteger? = some integer) :
    integer.natAbs < Word.count64 := by
  grind [Numeral.toInteger?, Word.int64?, Word.count64]

theorem hasFiniteNumbers_toDocument (numeral : Numeral) : numeral.toDocument.HasFiniteNumbers := by
  rw [Numeral.toDocument]
  split
  next kept => exact .whole (natAbs_lt_of_toInteger? kept)
  next =>
    split
    next made => exact .real (isFinite_of_toBinary64? made)
    next => exact .unreadable

/-! ### Values -/

/-- Whether a reader reads nothing but documents with finite numbers. -/
def ReadsFinite (value : ValueReader) : Prop :=
  ∀ {text document rest}, value text = some (document, rest) → document.HasFiniteNumbers

theorem readsFinite_readScalar : ReadsFinite readScalar := by
  intro text document rest reads
  rw [readScalar.eq_def] at reads
  split at reads
  next =>
    cases reads
    exact .null
  next =>
    cases reads
    exact .flag true
  next =>
    cases reads
    exact .flag false
  next =>
    rcases Option.map_eq_some_iff.mp reads with ⟨⟨content, after⟩, _, same⟩
    cases same
    cases content with
    | none => exact .unreadable
    | some content => exact .text content
  next =>
    rcases Option.map_eq_some_iff.mp reads with ⟨⟨numeral, after⟩, _, same⟩
    cases same
    exact hasFiniteNumbers_toDocument numeral

section

variable {value : ValueReader} (finite : ReadsFinite value)

include finite

theorem hasFiniteNumbers_of_readItems
    {fuel : Nat}
    {text rest : List Char}
    {items : List Document}
    (reads : readItems value fuel text = some (items, rest)) :
    ∀ item ∈ items, item.HasFiniteNumbers := by
  induction fuel generalizing text items with
  | zero => simp [readItems] at reads
  | succ fuel induction =>
    rw [readItems] at reads
    split at reads
    next => simp at reads
    next first after readsFirst =>
      split at reads
      next =>
        rcases Option.map_eq_some_iff.mp reads with ⟨⟨others, _⟩, readsOthers, same⟩
        cases same
        exact List.forall_mem_cons.mpr ⟨finite readsFirst, induction readsOthers⟩
      next =>
        cases reads
        exact List.forall_mem_singleton.mpr (finite readsFirst)
      next => simp at reads

theorem hasFiniteNumbers_of_readField
    {text rest : List Char}
    {name : Option String}
    {document : Document}
    (reads : readField value text = some ((name, document), rest)) :
    document.HasFiniteNumbers := by
  rw [readField.eq_def] at reads
  split at reads
  next =>
    split at reads
    next => simp at reads
    next =>
      split at reads
      next =>
        rcases Option.map_eq_some_iff.mp reads with ⟨⟨content, _⟩, readsContent, same⟩
        cases same
        exact finite readsContent
      next => simp at reads
  next => simp at reads

theorem hasFiniteNumbers_of_readFields
    {fuel : Nat}
    {text rest : List Char}
    {fields : List (Option String × Document)}
    (reads : readFields value fuel text = some (fields, rest)) :
    ∀ field ∈ fields, field.2.HasFiniteNumbers := by
  induction fuel generalizing text fields with
  | zero => simp [readFields] at reads
  | succ fuel induction =>
    rw [readFields] at reads
    split at reads
    next => simp at reads
    next first after readsFirst =>
      have firstFinite := hasFiniteNumbers_of_readField finite readsFirst
      split at reads
      next =>
        rcases Option.map_eq_some_iff.mp reads with ⟨⟨others, _⟩, readsOthers, same⟩
        cases same
        exact List.forall_mem_cons.mpr ⟨firstFinite, induction readsOthers⟩
      next =>
        cases reads
        exact List.forall_mem_singleton.mpr firstFinite
      next => simp at reads

end

theorem hasFiniteNumbers_of_mapM
    {fields : List (Option String × Document)}
    (each : ∀ field ∈ fields, field.2.HasFiniteNumbers)
    {named : List (String × Document)}
    (all : fields.mapM (fun (name, document) => name.map (·, document)) = some named) :
    ∀ field ∈ named, field.2.HasFiniteNumbers := by
  induction fields generalizing named with
  | nil =>
    cases all
    simp
  | cons first rest induction =>
    rcases List.forall_mem_cons.mp each with ⟨ofFirst, ofRest⟩
    rcases first with ⟨_ | name, document⟩
    · simp at all
    · simp only [List.mapM_cons, Option.map_some, Option.bind_eq_bind, Option.bind_some,
        Option.bind_eq_some_iff, Option.pure_def, Option.some.injEq] at all
      rcases all with ⟨others, readable, rfl⟩
      exact List.forall_mem_cons.mpr ⟨ofFirst, induction ofRest readable⟩

theorem hasFiniteNumbers_recordOf
    {fields : List (Option String × Document)}
    (each : ∀ field ∈ fields, field.2.HasFiniteNumbers) :
    (recordOf fields).HasFiniteNumbers := by
  rw [recordOf]
  split
  next named all => exact .record (hasFiniteNumbers_of_mapM each all)
  next => exact .unreadable

/-- Whatever the nesting, the numbers of a value are finite. -/
theorem readsFinite_readValue (nesting : Nat) : ReadsFinite (readValue nesting) := by
  induction nesting with
  | zero =>
    intro text document rest reads
    simp [readValue] at reads
  | succ nesting induction =>
    intro text document rest reads
    rw [readValue.eq_def] at reads
    dsimp only at reads
    split at reads
    next =>
      split at reads
      next =>
        cases reads
        exact .list (by simp)
      next =>
        rcases Option.map_eq_some_iff.mp reads with ⟨⟨items, _⟩, readsAll, same⟩
        cases same
        exact .list (hasFiniteNumbers_of_readItems induction readsAll)
    next =>
      split at reads
      next =>
        cases reads
        exact .record (by simp)
      next =>
        rcases Option.map_eq_some_iff.mp reads with ⟨⟨fields, _⟩, readsAll, same⟩
        cases same
        exact hasFiniteNumbers_recordOf (hasFiniteNumbers_of_readFields induction readsAll)
    next => exact readsFinite_readScalar reads

theorem hasFiniteNumbers_of_read?
    {text : List Char}
    {document : Document}
    (reads : read? text = some document) :
    document.HasFiniteNumbers := by
  rw [read?] at reads
  split at reads
  next readsValue =>
    split at reads
    next =>
      cases reads
      exact readsFinite_readValue _ readsValue
    next => simp at reads
  next => simp at reads

end Json

end RoverLink
