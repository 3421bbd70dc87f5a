import RoverLink.Text.Split

/-!
# Cutting and joining

Cutting a text at a separator undoes joining pieces that do not hold it.
`cutAfter` leaves the separator at the end of each piece, so texts that end
with their only separator come back when they are written one after the other.
-/

namespace RoverLink.Text

/-! ### At every separator -/

theorem splitEvery_of_not_mem
    {separator : Char}
    {piece : List Char}
    (absent : separator ∉ piece) :
    splitEvery separator piece = [piece] := by
  induction piece with
  | nil => rfl
  | cons character rest induction =>
    have other : character ≠ separator := fun same => absent (by simp [same])
    have later : separator ∉ rest := fun member => absent (List.mem_cons_of_mem _ member)
    simp [splitEvery, other, induction later]

/-- Cutting takes off the piece before the first separator. -/
theorem splitEvery_append_cons
    {separator : Char}
    {piece : List Char}
    (absent : separator ∉ piece)
    (rest : List Char) :
    splitEvery separator (piece ++ separator :: rest) = piece :: splitEvery separator rest := by
  induction piece with
  | nil => simp [splitEvery]
  | cons character piece induction =>
    have other : character ≠ separator := fun same => absent (by simp [same])
    have later : separator ∉ piece := fun member => absent (List.mem_cons_of_mem _ member)
    simp [splitEvery, other, induction later]

/-- Pieces that are joined by a separator come back, unless there is none. -/
theorem splitEvery_intercalate
    {separator : Char}
    {pieces : List (List Char)}
    (nonempty : pieces ≠ [])
    (absent : ∀ piece ∈ pieces, separator ∉ piece) :
    splitEvery separator ([separator].intercalate pieces) = pieces := by
  induction pieces with
  | nil => exact (nonempty rfl).elim
  | cons piece pieces induction =>
    have first : separator ∉ piece := absent piece (by simp)
    cases pieces with
    | nil => simpa using splitEvery_of_not_mem first
    | cons next others =>
      have joined : [separator].intercalate (piece :: next :: others) =
          piece ++ separator :: [separator].intercalate (next :: others) := by
        simp [List.intercalate_cons_cons]
      rw [joined, splitEvery_append_cons first]
      rw [induction (by simp) fun other member => absent other (List.mem_cons_of_mem _ member)]

theorem splitEvery_ne_nil (separator : Char) (text : List Char) :
    splitEvery separator text ≠ [] := by
  cases text with
  | nil => simp [splitEvery]
  | cons character rest =>
    rw [splitEvery]
    split
    next => simp
    next => split <;> simp

/-- Joining the pieces of a text by the separator gives the text again. -/
theorem intercalate_splitEvery (separator : Char) (text : List Char) :
    [separator].intercalate (splitEvery separator text) = text := by
  induction text with
  | nil => rfl
  | cons character rest induction =>
    rw [splitEvery]
    cases pieces : splitEvery separator rest with
    | nil => exact (splitEvery_ne_nil separator rest pieces).elim
    | cons piece others =>
      rw [pieces] at induction
      split
      next same => rw [same, List.intercalate_cons_cons, induction]; rfl
      next => cases others <;> simp_all [List.intercalate_cons_cons]

/-! ### At the last separator -/

theorem splitLast?_of_not_mem
    {separator : Char}
    {text : List Char}
    (absent : separator ∉ text) :
    splitLast? separator text = none := by
  induction text with
  | nil => rfl
  | cons character rest induction =>
    have other : character ≠ separator := fun same => absent (by simp [same])
    have later : separator ∉ rest := fun member => absent (List.mem_cons_of_mem _ member)
    simp [splitLast?, other, induction later]

theorem splitLast?_append_cons
    {separator : Char}
    (before : List Char)
    {after : List Char}
    (absent : separator ∉ after) :
    splitLast? separator (before ++ separator :: after) = some (before, after) := by
  induction before with
  | nil => simp [splitLast?, splitLast?_of_not_mem absent]
  | cons character before induction => simp [splitLast?, induction]

theorem not_mem_of_splitLast?_eq_none
    {separator : Char}
    {text : List Char}
    (missing : splitLast? separator text = none) :
    separator ∉ text := by
  induction text with
  | nil => exact List.not_mem_nil
  | cons character rest induction =>
    rw [splitLast?] at missing
    split at missing
    next => simp at missing
    next later =>
      split at missing
      next => simp at missing
      next other => exact List.not_mem_cons_of_ne_of_not_mem (Ne.symm other) (induction later)

/-- The cut is at the last separator. -/
theorem not_mem_of_splitLast?_eq_some
    {separator : Char}
    {text before after : List Char}
    (found : splitLast? separator text = some (before, after)) :
    separator ∉ after := by
  induction text generalizing before with
  | nil => simp [splitLast?] at found
  | cons character rest induction =>
    simp only [splitLast?] at found
    split at found
    next inner outer reached =>
      cases found
      exact induction reached
    next missing =>
      split at found
      next same =>
        cases found
        exact not_mem_of_splitLast?_eq_none missing
      next => simp at found

/-! ### Behind every separator -/

/-- The pieces of a text that is cut behind every separator; each piece keeps its separator. -/
def cutAfter (separator : Char) : List Char → List (List Char)
  | [] => []
  | character :: rest =>
    if character = separator then
      [character] :: cutAfter separator rest
    else
      match cutAfter separator rest with
      | [] => [[character]]
      | piece :: pieces => (character :: piece) :: pieces

theorem cutAfter_append_cons
    {separator : Char}
    {body : List Char}
    (absent : separator ∉ body)
    (rest : List Char) :
    cutAfter separator (body ++ separator :: rest) =
      (body ++ [separator]) :: cutAfter separator rest := by
  induction body with
  | nil => simp [cutAfter]
  | cons character body induction =>
    have other : character ≠ separator := fun same => absent (by simp [same])
    have later : separator ∉ body := fun member => absent (List.mem_cons_of_mem _ member)
    simp [cutAfter, other, induction later]

/-- Texts that end with their only separator can be told apart when they follow one another. -/
theorem cutAfter_flatten
    {separator : Char}
    {pieces : List (List Char)}
    (ended : ∀ piece ∈ pieces, ∃ body, piece = body ++ [separator] ∧ separator ∉ body) :
    cutAfter separator pieces.flatten = pieces := by
  induction pieces with
  | nil => rfl
  | cons piece pieces induction =>
    rcases ended piece (by simp) with ⟨body, rfl, absent⟩
    have later := induction fun other member => ended other (List.mem_cons_of_mem _ member)
    rw [List.flatten_cons, List.append_assoc, List.singleton_append,
      cutAfter_append_cons absent, later]

end RoverLink.Text
