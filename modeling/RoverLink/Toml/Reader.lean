import RoverLink.Toml.Scalar
import RoverLink.Toml.Table
import RoverLink.Toml.Text

/-!
# Reading TOML

`read?` gives the document of a TOML text.  A text is a sequence of lines; each line is empty, opens
a table, or gives a value to a key of the table opened last, and may end with a comment.  Values
inside of values nest at most 79 deep, and a key has fewer than 80 parts.
-/

namespace RoverLink.Toml

/-- The text after a comment, if it starts with one. -/
def skipComment : List Char → List Char
  | '#' :: rest => rest.dropWhile isOrdinary
  | text => text

/-- The text after blanks, a comment and a line end; the end of the text ends its last line. -/
def endLine? (text : List Char) : Option (List Char) :=
  match skipComment (skipWhite text) with
  | [] => some []
  | rest => afterLineEnd? rest

/-- The text after blanks, comments and line ends. -/
def skipLines : Nat → List Char → List Char
  | 0, text => text
  | fuel + 1, text =>
    let rest := skipComment (skipWhite text)
    match afterLineEnd? rest with
    | some rest => skipLines fuel rest
    | none => rest

/-- Whether a character belongs to an unquoted part of a key. -/
def isBareChar (character : Char) : Bool :=
  character.isAlphanum || character == '_' || character == '-'

def readKeyPart : List Char → Option (String × List Char)
  | '"' :: rest =>
    (readBasic (rest.length + 1) rest).map fun (part, rest) => (String.ofList part, rest)
  | '\'' :: rest => (readLiteral rest).map fun (part, rest) => (String.ofList part, rest)
  | text =>
    let part := text.takeWhile isBareChar
    if part = [] then none else some (String.ofList part, text.dropWhile isBareChar)

/-- The parts of a key with points between them, and what follows the blanks after it. -/
def readKeyParts : Nat → List Char → Option (List String × List Char)
  | 0, _ => none
  | fuel + 1, text =>
    match readKeyPart (skipWhite text) with
    | none => none
    | some (part, rest) =>
      match skipWhite rest with
      | '.' :: rest => (readKeyParts fuel rest).map fun (parts, rest) => (part :: parts, rest)
      | rest => some ([part], rest)

/-- A key of fewer than 80 parts. -/
def readKey (text : List Char) : Option (List String × List Char) :=
  readKeyParts 79 text

/-- The reader of one value, up to a certain depth. -/
abbrev ValueReader := List Char → Option (Document × List Char)

/-- The items of a list up to its closing bracket; a comma may follow the last one. -/
def readItems (value : ValueReader) : Nat → List Char → Option (List Document × List Char)
  | 0, _ => none
  | fuel + 1, text =>
    match skipLines text.length text with
    | ']' :: rest => some ([], rest)
    | text =>
      match value text with
      | none => none
      | some (item, rest) =>
        match skipLines rest.length rest with
        | ',' :: rest => (readItems value fuel rest).map fun (items, rest) => (item :: items, rest)
        | ']' :: rest => some ([item], rest)
        | _ => none

def readAssignment (value : ValueReader) (text : List Char) :
    Option ((List String × Document) × List Char) :=
  match readKey text with
  | some (key, '=' :: rest) =>
    (value (skipWhite rest)).map fun (document, rest) => ((key, document), rest)
  | _ => none

/-- The entries of an inline table up to its closing brace. -/
def readInline (value : ValueReader) : Nat → Entries → List Char → Option (Entries × List Char)
  | 0, _, _ => none
  | fuel + 1, entries, text =>
    match readAssignment value text with
    | none => none
    | some ((key, document), rest) =>
      match entries.assign document key with
      | none => none
      | some entries =>
        match skipWhite rest with
        | ',' :: rest => readInline value fuel entries rest
        | '}' :: rest => some (entries, rest)
        | _ => none

/-- A value at the start of a text, with fewer than the given number of values around it. -/
def readValue : Nat → ValueReader
  | 0, _ => none
  | nesting + 1, text =>
    match text with
    | '[' :: rest =>
      if nesting = 0 then
        none
      else
        (readItems (readValue nesting) (rest.length + 1) rest).map fun (items, rest) =>
          (.list items, rest)
    | '{' :: rest =>
      if nesting = 0 then
        none
      else
        match skipWhite rest with
        | '}' :: rest => some (.record [], rest)
        | rest =>
          (readInline (readValue nesting) rest.length [] rest).map fun (entries, rest) =>
            (.record (entryDocuments entries), rest)
    | mark :: _ =>
      if mark = '"' ∨ mark = '\'' then
        (readText text).map fun (content, rest) => (.text (String.ofList content), rest)
      else
        readScalar text
    | [] => none

/-- The tables read so far, and the path of the table that lines without header belong to. -/
structure Progress where
  entries : Entries
  path : List String

namespace Progress

/-- The progress after a header in brackets; `series` for one in doubled brackets. -/
def enter (progress : Progress) (series : Bool) (key : List String) : Option Progress := do
  let name ← key.getLast?
  let change := if series then Entries.openNext name else Entries.openTable name
  let entries ← progress.entries.within change key.dropLast
  return ⟨entries, key⟩

/-- The progress after a value has been given to a key. -/
def assign (progress : Progress) (key : List String) (value : Document) : Option Progress := do
  let entries ← progress.entries.within (Entries.assign value key) progress.path
  return ⟨entries, progress.path⟩

end Progress

/--
The progress after one line that is neither empty nor a comment, and the text after its content.
-/
def readLine (progress : Progress) (text : List Char) : Option (Progress × List Char) :=
  match text with
  | '[' :: '[' :: rest =>
    match readKey rest with
    | some (key, ']' :: ']' :: rest) => (progress.enter true key).map (·, rest)
    | _ => none
  | '[' :: rest =>
    match readKey rest with
    | some (key, ']' :: rest) => (progress.enter false key).map (·, rest)
    | _ => none
  | _ =>
    match readAssignment (readValue 80) text with
    | some ((key, value), rest) => (progress.assign key value).map (·, rest)
    | none => none

def readLines : Nat → Progress → List Char → Option Progress
  | 0, _, _ => none
  | fuel + 1, progress, text =>
    match skipLines text.length text with
    | [] => some progress
    | text =>
      match readLine progress text with
      | none => none
      | some (progress, rest) =>
        match endLine? rest with
        | some rest => readLines fuel progress rest
        | none => none

/-- The document of a TOML text, if it is one; a byte order mark at its start does not count. -/
def read? (text : List Char) : Option Document :=
  let text :=
    match text with
    | '\ufeff' :: rest => rest
    | _ => text
  (readLines (text.length + 1) ⟨[], []⟩ text).map fun progress =>
    .record (entryDocuments progress.entries)

end RoverLink.Toml
