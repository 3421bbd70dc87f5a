import RoverLink.Json.Number

/-!
# Reading JSON

`read?` gives the document of a JSON text.  A number that is too large and a text with an unpaired
surrogate are unreadable parts of the document, and so is a record with such a name.

The reader of one value is handed to the readers of lists and records, and a count of the characters
left bounds the nesting.
-/

namespace RoverLink.Json

/-- Whether a character may stand between the tokens of a JSON text. -/
def isSpace (character : Char) : Bool :=
  character == ' ' || character == '\t' || character == '\n' || character == '\r'

/-- The text from its first character on that is no space. -/
def skipSpace (text : List Char) : List Char :=
  text.dropWhile isSpace

/-! ### Texts -/

/-- A part of a quoted text: a character, or a surrogate given by its number. -/
inductive Piece where
  | character (value : Char)
  | surrogate (code : Nat)
  deriving DecidableEq, Repr

def hexDigit? (character : Char) : Option Nat :=
  if '0' ≤ character ∧ character ≤ '9' then some (character.toNat - 48)
  else if 'a' ≤ character ∧ character ≤ 'f' then some (character.toNat - 87)
  else if 'A' ≤ character ∧ character ≤ 'F' then some (character.toNat - 55)
  else none

/-- The piece that four hexadecimal digits stand for. -/
def hexPiece? (first second third fourth : Char) : Option Piece := do
  let code := (((← hexDigit? first) * 16 + (← hexDigit? second)) * 16 + (← hexDigit? third)) * 16 +
    (← hexDigit? fourth)
  return if 0xd800 ≤ code ∧ code < 0xe000 then .surrogate code else .character (Char.ofNat code)

/-- The character that a backslash and a letter stand for. -/
def escaped? : Char → Option Char
  | '"' => some '"'
  | '\\' => some '\\'
  | '/' => some '/'
  | 'b' => some '\x08'
  | 'f' => some '\x0c'
  | 'n' => some '\n'
  | 'r' => some '\r'
  | 't' => some '\t'
  | _ => none

/-- The pieces up to the closing quote, and the text after it. -/
def readPieces : List Char → Option (List Piece × List Char)
  | [] => none
  | '"' :: rest => some ([], rest)
  | '\\' :: 'u' :: first :: second :: third :: fourth :: rest => do
    let piece ← hexPiece? first second third fourth
    let (pieces, rest) ← readPieces rest
    return (piece :: pieces, rest)
  | '\\' :: letter :: rest => do
    let character ← escaped? letter
    let (pieces, rest) ← readPieces rest
    return (.character character :: pieces, rest)
  | character :: rest =>
    if character.toNat < 0x20 then
      none
    else do
      let (pieces, rest) ← readPieces rest
      return (.character character :: pieces, rest)

/-- The text of pieces, if every surrogate is the first or second half of a pair. -/
def joinPieces : List Piece → Option (List Char)
  | [] => some []
  | .character character :: rest => (joinPieces rest).map (character :: ·)
  | .surrogate high :: .surrogate low :: rest =>
    if high < 0xdc00 ∧ 0xdc00 ≤ low then
      (joinPieces rest).map (Char.ofNat (0x10000 + (high - 0xd800) * 0x400 + (low - 0xdc00)) :: ·)
    else
      none
  | .surrogate _ :: _ => none

/-- A text after its opening quote: the characters, if all can be read, and what follows. -/
def readText (text : List Char) : Option (Option String × List Char) :=
  (readPieces text).map fun (pieces, rest) => ((joinPieces pieces).map String.ofList, rest)

/-! ### Values -/

/-- The reader of one value, up to a certain depth. -/
abbrev ValueReader := List Char → Option (Document × List Char)

/-- The items of a list that is not empty, up to the closing bracket. -/
def readItems (value : ValueReader) : Nat → List Char → Option (List Document × List Char)
  | 0, _ => none
  | fuel + 1, text =>
    match value (skipSpace text) with
    | none => none
    | some (item, rest) =>
      match skipSpace rest with
      | ',' :: rest => (readItems value fuel rest).map fun (items, rest) => (item :: items, rest)
      | ']' :: rest => some ([item], rest)
      | _ => none

def readField (value : ValueReader) : List Char → Option ((Option String × Document) × List Char)
  | '"' :: text =>
    match readText text with
    | none => none
    | some (name, rest) =>
      match skipSpace rest with
      | ':' :: rest =>
        (value (skipSpace rest)).map fun (document, rest) => ((name, document), rest)
      | _ => none
  | _ => none

/-- The fields of a record that is not empty, up to the closing brace. -/
def readFields (value : ValueReader) :
    Nat → List Char → Option (List (Option String × Document) × List Char)
  | 0, _ => none
  | fuel + 1, text =>
    match readField value (skipSpace text) with
    | none => none
    | some (field, rest) =>
      match skipSpace rest with
      | ',' :: rest =>
        (readFields value fuel rest).map fun (fields, rest) => (field :: fields, rest)
      | '}' :: rest => some ([field], rest)
      | _ => none

/-- The record of named values; unreadable if a name is. -/
def recordOf (fields : List (Option String × Document)) : Document :=
  match fields.mapM fun (name, document) => name.map (·, document) with
  | some named => .record named
  | none => .unreadable

/-- A word, a text or a number at the start of a text. -/
def readScalar : ValueReader
  | 'n' :: 'u' :: 'l' :: 'l' :: rest => some (.null, rest)
  | 't' :: 'r' :: 'u' :: 'e' :: rest => some (.flag true, rest)
  | 'f' :: 'a' :: 'l' :: 's' :: 'e' :: rest => some (.flag false, rest)
  | '"' :: rest =>
    (readText rest).map fun (content, rest) =>
      (match content with
        | some content => .text content
        | none => .unreadable, rest)
  | text => (readNumeral text).map fun (numeral, rest) => (numeral.toDocument, rest)

/-- A value at the start of a text, with at most the given nesting. -/
def readValue : Nat → ValueReader
  | 0, _ => none
  | nesting + 1, text =>
    match text with
    | '[' :: rest =>
      match skipSpace rest with
      | ']' :: rest => some (.list [], rest)
      | _ =>
        (readItems (readValue nesting) rest.length rest).map fun (items, rest) =>
          (.list items, rest)
    | '{' :: rest =>
      match skipSpace rest with
      | '}' :: rest => some (.record [], rest)
      | _ =>
        (readFields (readValue nesting) rest.length rest).map fun (fields, rest) =>
          (recordOf fields, rest)
    | _ => readScalar text

def read? (text : List Char) : Option Document :=
  match readValue (text.length + 1) (skipSpace text) with
  | some (document, rest) => if skipSpace rest = [] then some document else none
  | none => none

end RoverLink.Json
