import Mathlib.Data.List.DropRight
import RoverLink.Text.Blank

/-!
# What cutting leaves

Cutting a text at its end or at both ends loses only characters of the kind
that is cut, and stops at the first character that is kept.
-/

namespace RoverLink.Text

theorem isBlank_of_isLineEnd
    {character : Char}
    (ends : isLineEnd character = true) :
    isBlank character = true := by
  simp only [isLineEnd, Bool.or_eq_true, beq_iff_eq] at ends
  rcases ends with rfl | rfl <;> decide

/-! ### At the end -/

theorem exists_eq_dropEndWhile_append (cut : Char → Bool) (text : List Char) :
    ∃ gone, text = dropEndWhile cut text ++ gone ∧ ∀ character ∈ gone, cut character = true := by
  refine ⟨(text.reverse.takeWhile cut).reverse, ?_, ?_⟩
  · rw [dropEndWhile, ← List.reverse_append, List.takeWhile_append_dropWhile,
      List.reverse_reverse]
  · intro character member
    exact List.all_eq_true.mp List.all_takeWhile character (List.mem_reverse.mp member)

theorem dropEndWhile_append_of_all
    (cut : Char → Bool)
    (text : List Char)
    {gone : List Char}
    (all : ∀ character ∈ gone, cut character = true) :
    dropEndWhile cut (text ++ gone) = dropEndWhile cut text := by
  rw [dropEndWhile, List.reverse_append, List.dropWhile_append_of_pos]
  · rfl
  · intro character member
    exact all character (List.mem_reverse.mp member)

theorem dropEndWhile_of_all_not
    (cut : Char → Bool)
    {text : List Char}
    (kept : ∀ character ∈ text, cut character = false) :
    dropEndWhile cut text = text := by
  rcases exists_eq_dropEndWhile_append cut text with ⟨gone, split, all⟩
  cases gone with
  | nil => simpa using split.symm
  | cons character rest =>
    have cutOff := all character (by simp)
    have member : character ∈ text := split ▸ by simp
    simp [kept character member] at cutOff

/-- There is nothing to cut a second time. -/
@[simp]
theorem dropEndWhile_dropEndWhile (cut : Char → Bool) (text : List Char) :
    dropEndWhile cut (dropEndWhile cut text) = dropEndWhile cut text := by
  simp [dropEndWhile, List.dropWhile_idempotent]

/-- A character that is kept also keeps all that stands before it. -/
theorem dropEndWhile_append_cons_of_not
    (cut : Char → Bool)
    (before : List Char)
    {kept : Char}
    (after : List Char)
    (isKept : cut kept = false) :
    dropEndWhile cut (before ++ kept :: after) = before ++ kept :: dropEndWhile cut after := by
  simp only [dropEndWhile, List.reverse_append, List.reverse_cons, List.append_assoc,
    List.singleton_append, List.dropWhile_append]
  split
  next none => simp [isKept, List.isEmpty_iff.mp none]
  next some => simp

/-! ### At both ends -/

@[simp]
theorem trimEnd_trim (text : List Char) : trimEnd (trim text) = trim text :=
  dropEndWhile_dropEndWhile isBlank _

theorem trim_append_of_all_blank
    (text : List Char)
    {gone : List Char}
    (blank : ∀ character ∈ gone, isBlank character = true) :
    trim (text ++ gone) = trim text := by
  simp only [trim]
  rw [List.dropWhile_append]
  split
  next none =>
    have all : gone.dropWhile isBlank = [] := by
      rw [← List.append_nil gone, List.dropWhile_append_of_pos blank, List.dropWhile_nil]
    rw [all, List.isEmpty_iff.mp none]
  next some => exact dropEndWhile_append_of_all _ _ blank

/-- Blanks on both sides of a text do not count. -/
theorem trim_append_append
    {front back : List Char}
    (blankFront : ∀ character ∈ front, isBlank character = true)
    (text : List Char)
    (blankBack : ∀ character ∈ back, isBlank character = true) :
    trim (front ++ text ++ back) = trim text := by
  rw [trim_append_of_all_blank _ blankBack, trim, List.dropWhile_append_of_pos blankFront]
  rfl

theorem trim_of_all_not_blank
    {text : List Char}
    (solid : ∀ character ∈ text, isBlank character = false) :
    trim text = text := by
  have front : text.dropWhile isBlank = text := by
    cases text with
    | nil => rfl
    | cons first rest => simp [solid first (by simp)]
  rw [trim, front]
  exact dropEndWhile_of_all_not isBlank solid

theorem exists_eq_append_trim_append (text : List Char) :
    ∃ front back, text = front ++ trim text ++ back ∧
      (∀ character ∈ front, isBlank character = true) ∧
      ∀ character ∈ back, isBlank character = true := by
  rcases exists_eq_dropEndWhile_append isBlank (text.dropWhile isBlank) with ⟨back, split, blank⟩
  refine ⟨text.takeWhile isBlank, back, ?_, ?_, blank⟩
  · rw [List.append_assoc, trim, trimEnd, ← split, List.takeWhile_append_dropWhile]
  · exact List.all_eq_true.mp List.all_takeWhile

/-! ### At the first character of a kind -/

section

variable {isKept : Char → Bool}
  {before after : List Char}
  (kept : ∀ character ∈ before, isKept character = true)
  (stops : ∀ character ∈ after.head?, isKept character = false)

include kept stops

theorem takeWhile_append_of_stops : (before ++ after).takeWhile isKept = before := by
  rw [List.takeWhile_append_of_pos kept]
  cases after with
  | nil => exact List.append_nil before
  | cons first others => simp [stops first rfl]

theorem dropWhile_append_of_stops : (before ++ after).dropWhile isKept = after := by
  rw [List.dropWhile_append_of_pos kept]
  cases after with
  | nil => rfl
  | cons first others => simp [stops first rfl]

end

section

variable {stop : Char} {text : List Char} (absent : stop ∉ text)

include absent

theorem ne_of_absent : ∀ character ∈ text, (character != stop) = true :=
  fun _ member => bne_iff_ne.mpr fun same => absent (same ▸ member)

theorem dropWhile_ne_append (after : List Char) :
    (text ++ stop :: after).dropWhile (· != stop) = stop :: after :=
  dropWhile_append_of_stops (ne_of_absent absent) (by simp)

theorem takeWhile_ne_append (after : List Char) :
    (text ++ stop :: after).takeWhile (· != stop) = text :=
  takeWhile_append_of_stops (ne_of_absent absent) (by simp)

theorem dropWhile_ne_eq_nil : text.dropWhile (· != stop) = [] := by
  rw [← List.append_nil text]
  exact dropWhile_append_of_stops (ne_of_absent absent) nofun

end

end RoverLink.Text
