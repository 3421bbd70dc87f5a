import RoverLink.Document

/-!
# Records with known fields

A type with fields is read either from a record, where its fields have names and others are ignored,
or from a list, where they have places.  A record must not name a known field twice; whether a list
may have items beyond the last place depends on the data format.  In both forms a field may be left
out only where a default says so; in a list that can only concern the last places.
-/

namespace RoverLink.Document

/-- The known fields of a document, with the form in which they came. -/
structure Fields where
  named : List (String × Document)
  /-- Whether the fields came by place. -/
  positional : Bool

def countName (name : String) (fields : List (String × Document)) : Nat :=
  fields.countP fun field => field.1 == name

/--
The fields of a document that has fields with the given names; a `bounded` list has no items beyond
their places.
-/
def fields? (bounded : Bool) (names : List String) : Document → Option Fields
  | .record fields =>
    if names.all fun name => countName name fields ≤ 1 then some ⟨fields, false⟩ else none
  | .list items =>
    if bounded && names.length < items.length then none else some ⟨names.zip items, true⟩
  | _ => none

namespace Fields

def required (fields : Fields) (name : String) (read : Document → Option α) : Option α :=
  (fields.named.lookup name).bind read

/-- The value of a field, or a default if the field is not there. -/
def defaulted
    (fields : Fields)
    (name : String)
    (read : Document → Option α)
    (missing : α) :
    Option α :=
  match fields.named.lookup name with
  | some document => read document
  | none => some missing

/-- The value of a field that may be null, and that a record may leave out. -/
def optional
    (fields : Fields)
    (name : String)
    (read : Document → Option α) :
    Option (Option α) :=
  match fields.named.lookup name with
  | some document => document.nullable read
  | none => if fields.positional then none else some none

end Fields

end RoverLink.Document
