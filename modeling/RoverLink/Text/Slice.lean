import RoverLink.Text.Utf8

/-!
# Cutting a text at offsets

Offsets count the octets of a text in UTF-8.  A text can be cut at an offset only where a character
begins or the text ends: an offset inside of a character or beyond the end gives nothing.
-/

namespace RoverLink.Text

/-- The number of octets of a text. -/
def octetCount (text : List Char) : Nat :=
  (Utf8.encode text).length

/-- The text before an offset and the text behind it. -/
def cutAt? (offset : Nat) : List Char → Option (List Char × List Char)
  | [] => if offset = 0 then some ([], []) else none
  | character :: rest =>
    if offset = 0 then some ([], character :: rest)
    else if character.utf8Size ≤ offset then
      (cutAt? (offset - character.utf8Size) rest).map fun (before, after) =>
        (character :: before, after)
    else none

/-- The text between two offsets. -/
def slice? (start stop : Nat) (text : List Char) : Option (List Char) :=
  if start ≤ stop then
    (cutAt? stop text).bind fun (before, _) => (cutAt? start before).map fun (_, piece) => piece
  else
    none

/-- The text from an offset on. -/
def sliceFrom? (start : Nat) (text : List Char) : Option (List Char) :=
  slice? start (octetCount text) text

/-- The offset at which a character stands first. -/
def offsetOf? (sought : Char) (text : List Char) : Option Nat :=
  if sought ∈ text then some (octetCount (text.takeWhile (· != sought))) else none

@[simp]
theorem octetCount_nil : octetCount [] = 0 :=
  rfl

@[simp]
theorem octetCount_cons (first : Char) (rest : List Char) :
    octetCount (first :: rest) = first.utf8Size + octetCount rest := by
  simp [octetCount, String.length_utf8EncodeChar]

@[simp]
theorem octetCount_append (left right : List Char) :
    octetCount (left ++ right) = octetCount left + octetCount right := by
  simp [octetCount]

end RoverLink.Text
