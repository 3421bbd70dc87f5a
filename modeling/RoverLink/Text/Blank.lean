/-!
# Blank characters and trimming

The characters with the Unicode property `White_Space`, and the three ways of cutting a text at its
ends.  All functions work on lists of characters, and each of them keeps a contiguous piece of its
argument.
-/

namespace RoverLink.Text

/-- Whether a character has the Unicode property `White_Space`. -/
def isBlank (character : Char) : Bool :=
  let code := character.toNat
  (0x09 ≤ code && code ≤ 0x0d) || code == 0x20 || code == 0x85 || code == 0xa0 || code == 0x1680 ||
    (0x2000 ≤ code && code ≤ 0x200a) || code == 0x2028 || code == 0x2029 || code == 0x202f ||
    code == 0x205f || code == 0x3000

/-- Whether a character ends a line: a carriage return or a line feed. -/
def isLineEnd (character : Char) : Bool :=
  character == '\r' || character == '\n'

/-- The text without the longest run of `cut` characters at its end. -/
def dropEndWhile (cut : Char → Bool) (text : List Char) : List Char :=
  (text.reverse.dropWhile cut).reverse

def trimEnd (text : List Char) : List Char :=
  dropEndWhile isBlank text

def trim (text : List Char) : List Char :=
  trimEnd (text.dropWhile isBlank)

@[simp]
theorem dropEndWhile_nil (cut : Char → Bool) : dropEndWhile cut [] = [] :=
  rfl

/-- A last character that is cut leaves the work to the rest. -/
theorem dropEndWhile_concat_of
    (cut : Char → Bool)
    (text : List Char)
    (last : Char)
    (gone : cut last = true) :
    dropEndWhile cut (text ++ [last]) = dropEndWhile cut text := by
  simp [dropEndWhile, gone]

end RoverLink.Text
