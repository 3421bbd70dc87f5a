import RoverLink.Decimal.Written
import RoverLink.Document

/-!
# Writing JSON

`compact` writes a document without any space, and `pretty` writes every item and field on a line of
its own, indented by two spaces.  A number always has a fraction or an exponent, so it is told apart
from an integer, and a number that is not finite is written as null.
-/

namespace RoverLink.Json

open Decimal

/-- The two digits that follow `\u00` for a control character. -/
def controlDigits (character : Char) : List Char :=
  [Nat.digitChar (character.toNat / 16), Nat.digitChar (character.toNat % 16)]

def textChar (character : Char) : List Char :=
  match character with
  | '"' => ['\\', '"']
  | '\\' => ['\\', '\\']
  | '\x08' => ['\\', 'b']
  | '\x0c' => ['\\', 'f']
  | '\n' => ['\\', 'n']
  | '\r' => ['\\', 'r']
  | '\t' => ['\\', 't']
  | other =>
    if other.toNat < 0x20 then ['\\', 'u', '0', '0'] ++ controlDigits other else [other]

/-- A text in quotes, with only those characters escaped that JSON requires. -/
def text (content : List Char) : List Char :=
  '"' :: content.flatMap textChar ++ ['"']

def scalar : Document → List Char
  | .flag true => "true".toList
  | .flag false => "false".toList
  | .whole value => signed value
  | .real value => value.scientific?.getD "null".toList
  | .text content => text content.toList
  | _ => "null".toList

mutual

def compact : Document → List Char
  | .list items => '[' :: compactItems items ++ [']']
  | .record fields => '{' :: compactFields fields ++ ['}']
  | other => scalar other

def compactItems : List Document → List Char
  | [] => []
  | [item] => compact item
  | item :: next :: rest => compact item ++ ',' :: compactItems (next :: rest)

def compactFields : List (String × Document) → List Char
  | [] => []
  | [(name, field)] => text name.toList ++ ':' :: compact field
  | (name, field) :: next :: rest =>
    text name.toList ++ ':' :: compact field ++ ',' :: compactFields (next :: rest)

end

def lineBreak (indent : Nat) : List Char :=
  '\n' :: List.replicate (2 * indent) ' '

mutual

/-- A document whose parts stand on lines of their own. -/
def prettyFrom (indent : Nat) : Document → List Char
  | .list [] => ['[', ']']
  | .list (item :: rest) =>
    '[' :: prettyItems (indent + 1) (item :: rest) ++ lineBreak indent ++ [']']
  | .record [] => ['{', '}']
  | .record (field :: rest) =>
    '{' :: prettyFields (indent + 1) (field :: rest) ++ lineBreak indent ++ ['}']
  | other => scalar other

def prettyItems (indent : Nat) : List Document → List Char
  | [] => []
  | [item] => lineBreak indent ++ prettyFrom indent item
  | item :: next :: rest =>
    lineBreak indent ++ prettyFrom indent item ++ ',' :: prettyItems indent (next :: rest)

def prettyFields (indent : Nat) : List (String × Document) → List Char
  | [] => []
  | [(name, field)] =>
    lineBreak indent ++ text name.toList ++ ':' :: ' ' :: prettyFrom indent field
  | (name, field) :: next :: rest =>
    lineBreak indent ++ text name.toList ++ ':' :: ' ' :: prettyFrom indent field ++
      ',' :: prettyFields indent (next :: rest)

end

/-- A document whose parts stand on lines of their own. -/
def pretty (document : Document) : List Char :=
  prettyFrom 0 document

end RoverLink.Json
