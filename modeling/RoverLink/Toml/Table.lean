import RoverLink.Document

/-!
# Tables in the making

A TOML text builds its tables piece by piece: headers open tables, and dotted keys create tables on
their way.  Whether a table may be opened or extended again depends on how it came to be, so each
table remembers that until the text is finished; `Node.toDocument` then forgets it.
-/

namespace RoverLink.Toml

/-- How a table came to be. -/
inductive Origin where
  /-- It lies on the way to a header. -/
  | implied
  /-- It lies on the way of a dotted key. -/
  | dotted
  /-- A header opened it. -/
  | opened
  deriving DecidableEq, Repr

/-- A value, a table, or a series of tables with the newest one last. -/
inductive Node where
  | leaf (value : Document)
  | table (origin : Origin) (entries : List (String × Node))
  | series (tables : List (List (String × Node)))

abbrev Entries := List (String × Node)

namespace Entries

/-- The entries with the first one of a name replaced, or with a new one at the end. -/
def put (entries : Entries) (name : String) (node : Node) : Entries :=
  match entries with
  | [] => [(name, node)]
  | (other, kept) :: rest =>
    if other = name then (name, node) :: rest else (other, kept) :: put rest name node

/--
The entries after a change to the table at the end of a path of headers: missing tables are created
on the way, and a series is entered at its newest table.
-/
def within (change : Entries → Option Entries) : List String → Entries → Option Entries
  | [], entries => change entries
  | name :: path, entries =>
    match entries.lookup name with
    | none =>
      (within change path []).map fun inner => put entries name (.table .implied inner)
    | some (.table origin inner) =>
      (within change path inner).map fun inner => put entries name (.table origin inner)
    | some (.series tables) =>
      (within change path (tables.getLast?.getD [])).map fun inner =>
        put entries name (.series (tables.dropLast ++ [inner]))
    | some (.leaf _) => none

/-- The entries after a header has opened the table of a name. -/
def openTable (name : String) (entries : Entries) : Option Entries :=
  match entries.lookup name with
  | none => some (put entries name (.table .opened []))
  | some (.table .implied inner) => some (put entries name (.table .opened inner))
  | _ => none

/-- The entries after a header has added a table to the series of a name. -/
def openNext (name : String) (entries : Entries) : Option Entries :=
  match entries.lookup name with
  | none => some (put entries name (.series [[]]))
  | some (.series tables) => some (put entries name (.series (tables ++ [[]])))
  | _ => none

/--
The entries after a value has been given to a key.  Each part of the key before its last leads into
a table that no header opened; the last of these must have come from dotted keys alone.
-/
def assign (value : Document) : List String → Entries → Option Entries
  | [], _ => none
  | [name], entries =>
    match entries.lookup name with
    | none => some (put entries name (.leaf value))
    | some _ => none
  | name :: next :: path, entries =>
    match entries.lookup name with
    | none =>
      (assign value (next :: path) []).map fun inner => put entries name (.table .dotted inner)
    | some (.table origin inner) =>
      if origin = .opened ∨ (path = [] ∧ origin ≠ .dotted) then
        none
      else
        (assign value (next :: path) inner).map fun inner =>
          put entries name (.table origin inner)
    | some (.series tables) =>
      if path = [] then
        none
      else
        (assign value (next :: path) (tables.getLast?.getD [])).map fun inner =>
          put entries name (.series (tables.dropLast ++ [inner]))
    | some (.leaf _) => none

end Entries

mutual

def Node.toDocument : Node → Document
  | .leaf value => value
  | .table _ entries => .record (entryDocuments entries)
  | .series tables => .list (tableDocuments tables)

def entryDocuments : List (String × Node) → List (String × Document)
  | [] => []
  | (name, node) :: rest => (name, node.toDocument) :: entryDocuments rest

def tableDocuments : List (List (String × Node)) → List Document
  | [] => []
  | entries :: rest => .record (entryDocuments entries) :: tableDocuments rest

end

end RoverLink.Toml
