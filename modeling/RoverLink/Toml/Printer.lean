import RoverLink.Decimal.Written
import RoverLink.Document

/-!
# Writing TOML

`write` writes a record whose fields are scalars and records.  The scalars of a table come first
and its tables after them; a table has a header exactly if it holds a scalar or nothing at all, and
an empty line stands before each header but the first line of the text.

A text is written in the first of these forms that needs no escape but that of the tab: in double
quotes; in single quotes; in tripled double quotes; in tripled single quotes.  If there is none, it
is written with escapes, over several lines if it has several.  The TOML library counts runs of
quotes in an octet for this choice and panics where that count overflows, so a text with a longer
run is not written.
-/

namespace RoverLink.Toml

open Decimal

/-- Whether a character is a control character other than the tab and the line feed. -/
def isControl (character : Char) : Bool :=
  character ≠ '\n' && character ≠ '\t' && (character.toNat < 0x20 || character.toNat = 0x7f)

def longestRun (sought : Char) (text : List Char) : Nat :=
  (text.foldl (fun (best, current) character =>
    if character = sought then (max best (current + 1), current + 1) else (best, 0)) (0, 0)).1

def upperDigit (value : Nat) : Char :=
  (Nat.digitChar value).toUpper

/-- One character between double quotes that is no double quote. -/
def escapedChar (long : Bool) (character : Char) : List Char :=
  match character with
  | '\x08' => ['\\', 'b']
  | '\t' => ['\\', 't']
  | '\x0c' => ['\\', 'f']
  | '\r' => ['\\', 'r']
  | '\\' => ['\\', '\\']
  | '\n' => if long then ['\n'] else ['\\', 'n']
  | other =>
    if isControl other then
      ['\\', 'u', '0', '0', upperDigit (other.toNat / 16), upperDigit (other.toNat % 16)]
    else
      [other]

/--
The characters of a text between double quotes, after a run of `run` double quotes: a longer run
than two in a text over several lines, and any in a text on one line, is broken by escapes.
-/
def escapedFrom (long : Bool) : Nat → List Char → List Char
  | _, [] => []
  | run, character :: rest =>
    if character = '"' then
      if run < (if long then 2 else 0) then '"' :: escapedFrom long (run + 1) rest
      else '\\' :: '"' :: escapedFrom long 0 rest
    else
      escapedChar long character ++ escapedFrom long 0 rest

def doubleQuoted (long hasLines : Bool) (content : List Char) : List Char :=
  let quotes := if long then ['"', '"', '"'] else ['"']
  quotes ++ (if hasLines then ['\n'] else []) ++ escapedFrom long 0 content ++ quotes

def singleQuoted (long hasLines : Bool) (content : List Char) : List Char :=
  let quotes := if long then ['\'', '\'', '\''] else ['\'']
  quotes ++ (if hasLines then ['\n'] else []) ++ content ++ quotes

def text (content : List Char) : List Char :=
  let hasControl := content.any isControl
  let hasLines := content.contains '\n'
  let hasEscape := content.contains '\\'
  let doubles := longestRun '"' content
  let singles := longestRun '\'' content
  if !hasControl && !hasLines && !hasEscape && doubles = 0 then
    doubleQuoted false false content
  else if !hasControl && !hasLines && singles = 0 then
    singleQuoted false false content
  else if !hasControl && !hasEscape && doubles ≤ 2 then
    doubleQuoted true hasLines content
  else if !hasControl && singles ≤ 2 then
    singleQuoted true hasLines content
  else
    doubleQuoted hasLines hasLines content

/-- A scalar, if it can be written: integers have at most 64 bits with sign. -/
def scalarText? : Document → Option (List Char)
  | .flag true => some "true".toList
  | .flag false => some "false".toList
  | .whole value => (Word.int64? value).map fun _ => signed value
  | .real value => some value.pointed
  | .text content => some (text content.toList)
  | _ => none

def isTable : Document → Bool
  | .record _ => true
  | _ => false

/-- The lines for the scalars among the fields of a table. -/
def scalarLines? : List (String × Document) → Option (List (List Char))
  | [] => some []
  | (name, field) :: rest =>
    if isTable field then
      scalarLines? rest
    else do
      let value ← scalarText? field
      let lines ← scalarLines? rest
      return (name.toList ++ " = ".toList ++ value) :: lines

/-- The header of a table, unless it is the whole text or holds nothing but tables. -/
def headerLines (path : List String) (fields : List (String × Document)) : List (List Char) :=
  if path = [] ∨ (fields ≠ [] ∧ fields.all fun field => isTable field.2) then
    []
  else
    [[], '[' :: (String.intercalate "." path).toList ++ [']']]

mutual

def tableLines? (path : List String) : Document → Option (List (List Char))
  | .record fields => do
    let scalars ← scalarLines? fields
    let tables ← innerLines? path fields
    return headerLines path fields ++ scalars ++ tables
  | _ => some []

def innerLines? (path : List String) : List (String × Document) → Option (List (List Char))
  | [] => some []
  | (name, field) :: rest => do
    let lines ← tableLines? (path ++ [name]) field
    let others ← innerLines? path rest
    return lines ++ others

end

/-- The longest run of quotes that the TOML library can count. -/
def runLimit : Nat :=
  255

/-- Whether the TOML library can count the runs of each kind of quote in a text. -/
def hasShortRuns (content : List Char) : Bool :=
  longestRun '"' content ≤ runLimit && longestRun '\'' content ≤ runLimit

mutual

/-- Whether the TOML library counts the quotes in all texts of a document without a panic. -/
def isCountable : Document → Bool
  | .text content => hasShortRuns content.toList
  | .record fields => areCountable fields
  | _ => true

/-- Whether the TOML library counts the quotes in all texts of the fields without a panic. -/
def areCountable : List (String × Document) → Bool
  | [] => true
  | (_, field) :: rest => isCountable field && areCountable rest

end

/-- Why a record has no TOML text. -/
inductive WriteError where
  /-- A field has no form: an integer beyond 64 bits, or no scalar and no record. -/
  | unwritable
  /-- A panic of the TOML library: a text has a run of quotes that is too long to be counted. -/
  | quoteOverflow
  deriving DecidableEq, Repr

/-- The TOML text of a record; a field without a form is reported before a run of quotes. -/
def write (document : Document) : Except WriteError (List Char) :=
  match tableLines? [] document with
  | none => .error .unwritable
  | some lines =>
    if isCountable document then
      let lines :=
        match lines with
        | [] :: rest => rest
        | _ => lines
      .ok (lines.flatMap fun line => line ++ ['\n'])
    else
      .error .quoteOverflow

end RoverLink.Toml
