import RoverLink.Proofs.Text.Cutting
import RoverLink.Proofs.Text.Utf8
import RoverLink.Text.Slice

/-!
# Cuts that have a place

A text can be cut behind every part that it begins with (`cutAt?_append`), and
nowhere else (`eq_append_of_cutAt?`); so a slice between the ends of two parts
is what stands between them.  In the octets of the text such a place is told by
the octet behind it, which does not continue a character
(`isSome_cutAt?_iff`).
-/

namespace RoverLink.Text

/-! ### Cuts behind a part -/

@[simp]
theorem cutAt?_zero (text : List Char) : cutAt? 0 text = some ([], text) := by
  cases text <;> rfl

theorem cutAt?_append (before after : List Char) :
    cutAt? (octetCount before) (before ++ after) = some (before, after) := by
  induction before with
  | nil => simp
  | cons first rest induction =>
    have positive := first.utf8Size_pos
    have inside : octetCount (first :: rest) - first.utf8Size = octetCount rest := by
      rw [octetCount_cons, Nat.add_sub_cancel_left]
    rw [List.cons_append, cutAt?, if_neg (by rw [octetCount_cons]; omega),
      if_pos (by rw [octetCount_cons]; omega), inside, induction]
    rfl

/-- A cut loses nothing, and its offset counts the octets before it. -/
theorem eq_append_of_cutAt?
    {offset : Nat}
    {text before after : List Char}
    (cut : cutAt? offset text = some (before, after)) :
    text = before ++ after ∧ offset = octetCount before := by
  induction text generalizing offset before with
  | nil =>
    rw [cutAt?] at cut
    split at cut
    next start =>
      cases cut
      exact ⟨rfl, start⟩
    next => simp at cut
  | cons first rest induction =>
    rw [cutAt?] at cut
    split at cut
    next start =>
      cases cut
      exact ⟨rfl, start⟩
    next =>
      split at cut
      next fits =>
        rcases Option.map_eq_some_iff.mp cut with ⟨⟨inner, behind⟩, cutRest, same⟩
        cases same
        rcases induction cutRest with ⟨split, count⟩
        refine ⟨by rw [split, List.cons_append], ?_⟩
        rw [octetCount_cons]
        omega
      next => simp at cut

theorem slice?_append (before piece after : List Char) :
    slice? (octetCount before) (octetCount (before ++ piece)) (before ++ piece ++ after) =
      some piece := by
  rw [slice?, if_pos (by rw [octetCount_append]; omega), cutAt?_append]
  simp only [Option.bind_some, cutAt?_append, Option.map_some]

theorem sliceFrom?_append (before after : List Char) :
    sliceFrom? (octetCount before) (before ++ after) = some after := by
  have whole := slice?_append before after []
  rw [List.append_nil] at whole
  exact whole

theorem offsetOf?_append_cons
    {sought : Char}
    {before : List Char}
    (absent : sought ∉ before)
    (after : List Char) :
    offsetOf? sought (before ++ sought :: after) = some (octetCount before) := by
  rw [offsetOf?, if_pos (by simp), takeWhile_ne_append absent]

theorem offsetOf?_of_not_mem
    {sought : Char}
    {text : List Char}
    (absent : sought ∉ text) :
    offsetOf? sought text = none :=
  if_neg absent

/-! ### Cuts in the octets -/

/-- A text can be cut where it ends and before every octet that does not continue a character. -/
theorem isSome_cutAt?_iff (offset : Nat) (text : List Char) :
    (cutAt? offset text).isSome = true ↔
      offset ≤ octetCount text ∧
        ∀ octet, (Utf8.encode text)[offset]? = some octet → Utf8.isContinuation octet = false := by
  induction text generalizing offset with
  | nil => by_cases start : offset = 0 <;> simp [cutAt?, start]
  | cons character rest induction =>
    rcases Utf8.exists_utf8EncodeChar_eq_cons character with
      ⟨first, others, octets, starts, continues⟩
    have width : character.utf8Size = others.length + 1 := by
      rw [← String.length_utf8EncodeChar, octets, List.length_cons]
    rw [cutAt?, octetCount_cons, Utf8.encode_cons, octets]
    split
    next start => simp [start, starts]
    next later =>
      split
      next fits =>
        -- The offset lies behind the first character, and in the rest.
        rw [Option.isSome_map, induction,
          List.getElem?_append_right (by rw [List.length_cons]; omega), List.length_cons, ← width,
          Nat.sub_le_iff_le_add']
      next inside =>
        -- The offset lies inside of the first character.
        have bound : offset - 1 < others.length := by omega
        have stands : (first :: others ++ Utf8.encode rest)[offset]? = some others[offset - 1] := by
          rw [List.getElem?_append_left (by rw [List.length_cons]; omega)]
          obtain ⟨before, rfl⟩ : ∃ before, offset = before + 1 := ⟨offset - 1, by omega⟩
          simp
        constructor
        · intro impossible
          simp at impossible
        · rintro ⟨_, ends⟩
          have continued := continues _ (List.getElem_mem bound)
          rw [ends _ stands] at continued
          exact absurd continued Bool.false_ne_true

end RoverLink.Text
