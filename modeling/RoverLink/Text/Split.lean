/-!
# Cutting a text at a character

`splitEvery` cuts at every occurrence of a separator and `splitLast?` at its last one.  Both lose
nothing but the separators they cut at.
-/

namespace RoverLink.Text

/--
The pieces between all occurrences of a separator; there is one more than there are separators.
-/
def splitEvery (separator : Char) : List Char → List (List Char)
  | [] => [[]]
  | character :: rest =>
    if character = separator then
      [] :: splitEvery separator rest
    else
      match splitEvery separator rest with
      | [] => [[character]]
      | piece :: pieces => (character :: piece) :: pieces

/-- The pieces before and after the last occurrence of a separator. -/
def splitLast? (separator : Char) : List Char → Option (List Char × List Char)
  | [] => none
  | character :: rest =>
    match splitLast? separator rest with
    | some (before, after) => some (character :: before, after)
    | none => if character = separator then some ([], rest) else none

theorem splitLast?_eq_some
    {separator : Char}
    {text before after : List Char}
    (found : splitLast? separator text = some (before, after)) :
    text = before ++ separator :: after := by
  induction text generalizing before with
  | nil => simp [splitLast?] at found
  | cons character rest ih =>
    simp only [splitLast?] at found
    split at found
    next inner outer reached =>
      cases found
      simp [ih reached]
    next missing =>
      split at found
      next same => cases found; simp [same]
      next => simp at found

end RoverLink.Text
