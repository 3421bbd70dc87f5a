import Mathlib.Data.List.Forall2
import RoverLink.Proofs.Json.Token

/-!
# Lists of integers and texts

An integer in decimal and a literal in quotes are read as the same document
wherever they stand in a list (`exists_isItem_of_isDecimal`,
`isItem_of_isLiteral`).  A list of such items is read item by item
(`read?_list`), and a list whose text is cut off is not read (`read?_of_cut`).
-/

namespace RoverLink.Json

open Decimal

/-- Whether a character ends an item of a list. -/
def IsItemEnd (character : Char) : Prop :=
  character = ',' ∨ character = ']'

theorem IsItemEnd.endsNumber
    {stop : Char}
    (ends : IsItemEnd stop)
    (after : List Char) :
    EndsNumber (stop :: after) := by
  rintro character ⟨⟩
  rcases ends with rfl | rfl <;> decide

theorem IsItemEnd.isSpace {stop : Char} (ends : IsItemEnd stop) : isSpace stop = false := by
  rcases ends with rfl | rfl <;> decide

/-- Whether a text is read as a scalar that can be read when it stands in a list. -/
structure IsItem (text : List Char) (document : Document) : Prop extends IsToken text document where
  readable : document.isReadable = true
  depth : document.depth = 0

/-! ### Single items -/

theorem IsInteger.isScalar
    {document : Document}
    {integer : Int}
    (isInteger : IsInteger document integer) :
    document.isReadable = true ∧ document.depth = 0 := by
  cases isInteger <;> exact ⟨rfl, rfl⟩

theorem exists_isItem_of_isDecimal
    {text : List Char}
    {integer : Int}
    (written : IsDecimal text integer)
    (small : integer.natAbs ≤ Binary64.greatestWhole) :
    ∃ document, IsItem text document ∧ IsInteger document integer := by
  rcases exists_isToken_of_isDecimal written with ⟨negative, magnitude, value, token⟩
  have isInteger : IsInteger (Numeral.toDocument ⟨negative, digits magnitude, none, none⟩)
      integer := by
    rw [value]
    apply isInteger_toDocument negative
    split at value <;> omega
  exact ⟨_, ⟨token, isInteger.isScalar.1, isInteger.isScalar.2⟩, isInteger⟩

theorem isItem_signed
    {value : Int}
    (least : -0x8000000000000000 ≤ value)
    (small : value < Word.count64) :
    IsItem (signed value) (.whole value) := by
  rcases exists_isToken_signed value with ⟨numeral, token, kept⟩
  exact ⟨kept least small ▸ token, rfl, rfl⟩

theorem isItem_of_isLiteral
    {literal text : List Char}
    (written : IsLiteral literal text) :
    IsItem ('"' :: literal ++ ['"']) (.text (String.ofList text)) where
  toIsToken := isToken_of_isLiteral written
  readable := rfl
  depth := rfl

/-! ### Lists -/

theorem IsItemEnd.skipSpace_cons
    {stop : Char}
    (ends : IsItemEnd stop)
    (after : List Char) :
    skipSpace (stop :: after) = stop :: after := by
  simp [skipSpace, ends.isSpace]

/-- One item, and the items after it that are separated by commas. -/
def joined (text : List Char) (texts : List (List Char)) : List Char :=
  text ++ texts.flatMap (',' :: ·)

theorem joined_cons (text next : List Char) (texts : List (List Char)) :
    joined text (next :: texts) = text ++ ',' :: joined next texts := by
  simp [joined]

/-- Texts with commas between them are the first one and the others behind commas. -/
theorem intercalate_eq_joined (text : List Char) (texts : List (List Char)) :
    [','].intercalate (text :: texts) = joined text texts := by
  induction texts generalizing text with
  | nil => simp [joined]
  | cons next texts induction =>
    rw [List.intercalate_cons_cons, induction, joined_cons, List.append_assoc,
      List.singleton_append]

theorem length_le_length_joined (text : List Char) (texts : List (List Char)) :
    texts.length ≤ (joined text texts).length := by
  induction texts generalizing text with
  | nil => exact Nat.zero_le _
  | cons next texts induction =>
    have rest := induction next
    simp only [joined_cons, List.length_append, List.length_cons]
    omega

theorem readItems_joined
    {text : List Char}
    {document : Document}
    (token : IsToken text document)
    {texts : List (List Char)}
    {documents : List Document}
    (tokens : List.Forall₂ IsToken texts documents)
    (nesting : Nat)
    {fuel : Nat}
    (enough : texts.length < fuel)
    (after : List Char) :
    readItems (readValue (nesting + 1)) fuel (joined text texts ++ ']' :: after) =
      some (document :: documents, after) := by
  induction tokens generalizing text document fuel with
  | nil =>
    cases fuel with
    | zero => simp at enough
    | succ fuel =>
      rw [joined, List.flatMap_nil, List.append_nil, readItems, token.skipSpace_append,
        token.reads nesting (IsItemEnd.endsNumber (.inr rfl) after)]
      simp only [IsItemEnd.skipSpace_cons (.inr rfl)]
  | cons next _ induction =>
    cases fuel with
    | zero => simp at enough
    | succ fuel =>
      rw [joined_cons, List.append_assoc, List.cons_append, readItems, token.skipSpace_append,
        token.reads nesting (IsItemEnd.endsNumber (.inl rfl) _)]
      simp only [IsItemEnd.skipSpace_cons (.inl rfl),
        induction next (Nat.lt_of_succ_lt_succ enough), Option.map_some]

/-- A list that starts with a scalar is read as its items. -/
theorem read?_of_isToken
    {text : List Char}
    {document : Document}
    (token : IsToken text document)
    (after : List Char) :
    read? ('[' :: (text ++ after)) =
      match readItems (readValue ((text ++ after).length + 1)) (text ++ after).length
          (text ++ after) with
      | some (items, rest) => if skipSpace rest = [] then some (.list items) else none
      | none => none := by
  have opens : skipSpace ('[' :: (text ++ after)) = '[' :: (text ++ after) :=
    skipSpace_cons (by decide) _
  have closed : ∀ behind, skipSpace (text ++ after) ≠ ']' :: behind := by
    rcases token.starts with ⟨first, rest, rfl, solid, noEnd⟩
    intro behind same
    rw [List.cons_append, skipSpace_cons solid] at same
    exact noEnd (List.cons.inj same).1
  rw [read?, opens, readValue_list closed, List.length_cons]
  cases readItems (readValue ((text ++ after).length + 1)) (text ++ after).length
    (text ++ after) <;> rfl

/-- A list of scalars is read one by one. -/
theorem read?_list
    {text : List Char}
    {document : Document}
    (token : IsToken text document)
    {texts : List (List Char)}
    {documents : List Document}
    (tokens : List.Forall₂ IsToken texts documents) :
    read? ('[' :: (joined text texts ++ [']'])) = some (.list (document :: documents)) := by
  have enough : texts.length < (joined text texts ++ [']']).length := by
    have least := length_le_length_joined text texts
    simp only [List.length_append, List.length_singleton]
    omega
  have reads := readItems_joined token tokens (joined text texts ++ [']']).length enough []
  have layout : joined text texts ++ [']'] = text ++ (texts.flatMap (',' :: ·) ++ [']']) :=
    List.append_assoc ..
  rw [layout] at reads ⊢
  rw [read?_of_isToken token, reads]
  rfl

/-- A list whose second item is a text that is not closed is not read. -/
theorem read?_of_cut
    {text behind : List Char}
    {document : Document}
    (token : IsToken text document)
    (cut : readText behind = none) :
    read? ('[' :: (text ++ ',' :: '"' :: behind)) = none := by
  have unread : ∀ nesting, readValue (nesting + 1) ('"' :: behind) = none := by
    intro nesting
    rw [readValue_of_scalar (by decide) (by decide), readScalar, cut]
    rfl
  have rest : ∀ nesting fuel, readItems (readValue (nesting + 1)) fuel ('"' :: behind) = none := by
    rintro nesting (_ | fuel)
    · rfl
    · rw [readItems, skipSpace_cons (by decide), unread]
  have items : ∀ nesting fuel, readItems (readValue (nesting + 1)) fuel
      (text ++ ',' :: '"' :: behind) = none := by
    rintro nesting (_ | fuel)
    · rfl
    · rw [readItems, token.skipSpace_append,
        token.reads nesting (IsItemEnd.endsNumber (.inl rfl) _)]
      simp only [IsItemEnd.skipSpace_cons (.inl rfl), rest, Option.map_none]
  rw [read?_of_isToken token, items]

theorem areReadable_of_forall₂
    {texts : List (List Char)}
    {documents : List Document}
    (items : List.Forall₂ IsItem texts documents) :
    Document.areReadable documents = true := by
  induction items with
  | nil => rfl
  | cons item _ induction => rw [Document.areReadable, item.readable, induction, Bool.and_self]

theorem depthOfItems_of_forall₂
    {texts : List (List Char)}
    {documents : List Document}
    (items : List.Forall₂ IsItem texts documents) :
    Document.depthOfItems documents = 0 := by
  induction items with
  | nil => rfl
  | cons item _ induction => rw [Document.depthOfItems, item.depth, induction, Nat.max_self]

end RoverLink.Json
