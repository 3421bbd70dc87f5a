import RoverLink.Json.Reader

/-!
# Texts in TOML

The four forms of a text: between double quotes with escapes or between single quotes without, each
on one line or, with tripled quotes, over several.  A line end inside a text over several lines is a
line feed, however it was written, and a line end right after the opening quotes does not count.

Every reader starts after the opening quotes and gives the characters of the text and what follows
the closing quotes.
-/

namespace RoverLink.Toml

open Json (hexDigit?)

/-- Whether a character separates tokens inside a line. -/
def isWhite (character : Char) : Bool :=
  character == ' ' || character == '\t'

/-- The text from its first character on that is neither a blank nor a tab. -/
def skipWhite (text : List Char) : List Char :=
  text.dropWhile isWhite

/-- Whether a character may stand in comments and texts: a tab, or no control character of ASCII. -/
def isOrdinary (character : Char) : Bool :=
  character == '\t' || (0x20 ≤ character.toNat && character.toNat ≠ 0x7f)

/-- The text after a line end, if it starts with one. -/
def afterLineEnd? : List Char → Option (List Char)
  | '\n' :: rest => some rest
  | '\r' :: '\n' :: rest => some rest
  | _ => none

def dropLineEnd (text : List Char) : List Char :=
  (afterLineEnd? text).getD text

/-- The text from its first character on that is no blank, tab or line end. -/
def skipWhiteLines : Nat → List Char → List Char
  | 0, text => text
  | fuel + 1, text =>
    match afterLineEnd? (skipWhite text) with
    | some rest => skipWhiteLines fuel rest
    | none => skipWhite text

/-- The character with the code point that hexadecimal digits give. -/
def hexChar? (digits : List Char) : Option Char := do
  let values ← digits.mapM hexDigit?
  let code := values.foldl (fun sofar value => sofar * 16 + value) 0
  if code < 0xd800 ∨ (0xe000 ≤ code ∧ code < 0x110000) then some (Char.ofNat code) else none

/-- The character that a letter after a backslash stands for. -/
def escaped? : Char → Option Char
  | 'b' => some '\x08'
  | 't' => some '\t'
  | 'n' => some '\n'
  | 'f' => some '\x0c'
  | 'r' => some '\r'
  | '"' => some '"'
  | '\\' => some '\\'
  | _ => none

/-- The character of an escape after its backslash, and what follows. -/
def readEscape : List Char → Option (Char × List Char)
  | 'u' :: rest =>
    if rest.length < 4 then none
    else (hexChar? (rest.take 4)).map (·, rest.drop 4)
  | 'U' :: rest =>
    if rest.length < 8 then none
    else (hexChar? (rest.take 8)).map (·, rest.drop 8)
  | letter :: rest => (escaped? letter).map (·, rest)
  | [] => none

def readBasic : Nat → List Char → Option (List Char × List Char)
  | 0, _ => none
  | _ + 1, [] => none
  | fuel + 1, character :: rest =>
    if character = '"' then
      some ([], rest)
    else if character = '\\' then do
      let (meant, rest) ← readEscape rest
      let (content, rest) ← readBasic fuel rest
      return (meant :: content, rest)
    else if isOrdinary character then do
      let (content, rest) ← readBasic fuel rest
      return (character :: content, rest)
    else
      none

def readLiteral : List Char → Option (List Char × List Char)
  | [] => none
  | character :: rest =>
    if character = '\'' then
      some ([], rest)
    else if isOrdinary character then
      (readLiteral rest).map fun (content, rest) => (character :: content, rest)
    else
      none

/--
The closing of a text over several lines: three quotes, and up to two more before them that belong
to the text.
-/
def closing? (quote : Char) (text : List Char) : Option (List Char × List Char) :=
  let count := (text.takeWhile (· == quote)).length
  if count < 3 then none
  else if count = 3 then some ([], text.drop 3)
  else if count = 4 then some ([quote], text.drop 4)
  else some ([quote, quote], text.drop 5)

def readLongBasic : Nat → List Char → Option (List Char × List Char)
  | 0, _ => none
  | fuel + 1, text =>
    match closing? '"' text with
    | some found => some found
    | none =>
      match afterLineEnd? text with
      | some rest => do
        let (content, rest) ← readLongBasic fuel rest
        return ('\n' :: content, rest)
      | none =>
        match text with
        | [] => none
        | '\\' :: rest =>
          match afterLineEnd? (skipWhite rest) with
          | some rest => readLongBasic fuel (skipWhiteLines rest.length rest)
          | none => do
            let (meant, rest) ← readEscape rest
            let (content, rest) ← readLongBasic fuel rest
            return (meant :: content, rest)
        | character :: rest =>
          if isOrdinary character then do
            let (content, rest) ← readLongBasic fuel rest
            return (character :: content, rest)
          else
            none

def readLongLiteral : Nat → List Char → Option (List Char × List Char)
  | 0, _ => none
  | fuel + 1, text =>
    match closing? '\'' text with
    | some found => some found
    | none =>
      match afterLineEnd? text with
      | some rest => do
        let (content, rest) ← readLongLiteral fuel rest
        return ('\n' :: content, rest)
      | none =>
        match text with
        | [] => none
        | character :: rest =>
          if isOrdinary character then do
            let (content, rest) ← readLongLiteral fuel rest
            return (character :: content, rest)
          else
            none

/-- A text in any of the four forms, from its opening quotes on. -/
def readText : List Char → Option (List Char × List Char)
  | '"' :: '"' :: '"' :: rest => readLongBasic (rest.length + 1) (dropLineEnd rest)
  | '"' :: rest => readBasic (rest.length + 1) rest
  | '\'' :: '\'' :: '\'' :: rest => readLongLiteral (rest.length + 1) (dropLineEnd rest)
  | '\'' :: rest => readLiteral rest
  | _ => none

end RoverLink.Toml
