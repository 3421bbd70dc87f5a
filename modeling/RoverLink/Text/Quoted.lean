import RoverLink.Text.Printable

/-!
# Quoted text

Two ways of writing a text so that each of its characters can be seen.  `quoted` is used for the
text values of a reply: it stands in double quotes, keeps printable characters, and writes every
other character by its code point.  `visible` is used for a single character inside a sentence: it
keeps the printable characters of ASCII only.
-/

namespace RoverLink.Text

/-- The code point of a character in lower-case hexadecimal digits, between braces. -/
def codePoint (character : Char) : List Char :=
  ['\\', 'u', '{'] ++ Nat.toDigits 16 character.toNat ++ ['}']

def quotedChar (character : Char) : List Char :=
  match character with
  | '"' => ['\\', '"']
  | '\\' => ['\\', '\\']
  | '\n' => ['\\', 'n']
  | '\r' => ['\\', 'r']
  | '\t' => ['\\', 't']
  | '\x00' => ['\\', '0']
  | other => if isPrintable other then [other] else codePoint other

def quoted (text : List Char) : List Char :=
  '"' :: text.flatMap quotedChar ++ ['"']

/-- A character inside a sentence: printable ASCII as it is, apart from quotes and the backslash. -/
def visible (character : Char) : List Char :=
  match character with
  | '"' => ['\\', '"']
  | '\'' => ['\\', '\'']
  | '\\' => ['\\', '\\']
  | '\n' => ['\\', 'n']
  | '\r' => ['\\', 'r']
  | '\t' => ['\\', 't']
  | other =>
    if 0x20 ≤ other.toNat && other.toNat < 0x7f then [other] else codePoint other

end RoverLink.Text
