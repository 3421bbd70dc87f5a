import RoverLink.Decimal.Binary64
import RoverLink.Word

/-!
# Documents

The tree that a text in a data format stands for: scalars, lists, and records of named fields.  A
record keeps its fields in the order of the text and may name a field twice, so that the reader of a
particular record can decide what that means.

A part that is well-formed but stands for no value, such as a number beyond every binary64 number,
is `unreadable`.  It can be skipped, and asking for its value fails.
-/

namespace RoverLink

open Decimal

/-- A tree of scalars, lists and records. -/
inductive Document where
  | null
  | flag (value : Bool)
  | whole (value : Int)
  | real (value : Binary64)
  | text (value : String)
  | list (items : List Document)
  | record (fields : List (String × Document))
  | unreadable

namespace Document

mutual

/-- Whether no part of a document is unreadable. -/
def isReadable : Document → Bool
  | .list items => areReadable items
  | .record fields => fieldsAreReadable fields
  | .unreadable => false
  | _ => true

/-- Whether no part of any of the items is unreadable. -/
def areReadable : List Document → Bool
  | [] => true
  | item :: rest => item.isReadable && areReadable rest

/-- Whether no part of any of the fields is unreadable. -/
def fieldsAreReadable : List (String × Document) → Bool
  | [] => true
  | (_, field) :: rest => field.isReadable && fieldsAreReadable rest

end

mutual

/-- How many lists and records enclose the innermost part of a document. -/
def depth : Document → Nat
  | .list items => depthOfItems items + 1
  | .record fields => depthOfFields fields + 1
  | _ => 0

def depthOfItems : List Document → Nat
  | [] => 0
  | item :: rest => max item.depth (depthOfItems rest)

def depthOfFields : List (String × Document) → Nat
  | [] => 0
  | (_, field) :: rest => max field.depth (depthOfFields rest)

end

/-- The fields with one more, in the order of their names; a later value replaces an earlier one. -/
def insertField (name : String) (value : Document) :
    List (String × Document) → List (String × Document)
  | [] => [(name, value)]
  | (other, kept) :: rest =>
    if name = other then (name, value) :: rest
    else if name < other then (name, value) :: (other, kept) :: rest
    else (other, kept) :: insertField name value rest

mutual

/-- The document with the fields of every record in the order of their names, each name once. -/
def sorted : Document → Document
  | .list items => .list (sortedItems items)
  | .record fields => .record (sortedFields fields [])
  | other => other

def sortedItems : List Document → List Document
  | [] => []
  | item :: rest => item.sorted :: sortedItems rest

/-- The fields in `done` and then the given ones, sorted. -/
def sortedFields :
    List (String × Document) → List (String × Document) → List (String × Document)
  | [], done => done
  | (name, field) :: rest, done => sortedFields rest (insertField name field.sorted done)

end

/-! ### Scalars -/

def flag? : Document → Option Bool
  | .flag value => some value
  | _ => none

/-- The number of a document; integers are rounded to the nearest number. -/
def real? : Document → Option Binary64
  | .real value => some value
  | .whole value => some (Binary64.ofInt value)
  | _ => none

def whole? : Document → Option Int
  | .whole value => some value
  | _ => none

def text? : Document → Option String
  | .text value => some value
  | _ => none

/-- The natural number of a document, if it is less than `bound`. -/
def natural? (bound : Nat) (document : Document) : Option Nat :=
  document.whole?.bind fun value =>
    if 0 ≤ value ∧ value < bound then some value.toNat else none

def int32? (document : Document) : Option Int32 :=
  document.whole?.bind Word.int32?

def int64? (document : Document) : Option Int64 :=
  document.whole?.bind Word.int64?

def nullable (read : Document → Option α) : Document → Option (Option α)
  | .null => some none
  | other => (read other).map some

/--
One of several named choices: a text that names it, or a record of one field of that name whose
value is `vacant`.
-/
def choice? (vacant : Document → Bool) (choices : List (String × α)) : Document → Option α
  | .text name => choices.lookup name
  | .record [(name, payload)] => if vacant payload then choices.lookup name else none
  | _ => none

def isNull : Document → Bool
  | .null => true
  | _ => false

/-- Whether a document is a list or a record without content. -/
def isHollow : Document → Bool
  | .list [] => true
  | .record [] => true
  | _ => false

end Document

end RoverLink
