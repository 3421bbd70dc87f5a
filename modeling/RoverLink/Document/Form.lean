import RoverLink.Document.Record
import RoverLink.Json.Printer
import RoverLink.Json.Reader

/-!
# Values with a document form

A type with a document form can be written to a document and read back from one.  The data formats
differ in what a record may hold under the name of a choice, and in how long a list may be that
gives the fields of a record by their places.
-/

namespace RoverLink

/-- The data formats that documents come from. -/
inductive DataFormat where
  | json
  | toml
  deriving DecidableEq, Repr

/-- Whether a document may stand under the name of a choice, for a choice without content. -/
def DataFormat.isVacant : DataFormat → Document → Bool
  | .json => Document.isNull
  | .toml => Document.isHollow

/--
Whether a list that gives fields by their places must not have more items than there are fields.
-/
def DataFormat.boundsLists : DataFormat → Bool
  | .json => true
  | .toml => false

/-- Types whose values are written to documents and read from them. -/
class DocumentForm (Value : Type) where
  toDocument : Value → Document
  ofDocument? : DataFormat → Document → Option Value

def Json.parse? {Value : Type} [DocumentForm Value] (text : List Char) : Option Value :=
  (Json.read? text).bind (DocumentForm.ofDocument? .json)

def Json.line {Value : Type} [DocumentForm Value] (value : Value) : List Char :=
  Json.compact (DocumentForm.toDocument value)

end RoverLink
