import RoverLink.Decimal.Written
import RoverLink.Error
import RoverLink.Text.Quoted
import RoverLink.Word

/-!
# Replies

A reply has a status, a list of values that are numbers or texts, and, if the device sent them, the
number of the request that it answers and a check.  Values are asked for by their place, and asking
for what is not there is an error that shows the reply.
-/

namespace RoverLink

open Decimal

/-- One value of a reply. -/
inductive ReplyValue where
  | number (value : Binary64)
  | text (value : String)
  deriving DecidableEq, Repr

namespace ReplyValue

def number? : ReplyValue → Option Binary64
  | .number value => some value
  | .text _ => none

def text? : ReplyValue → Option String
  | .number _ => none
  | .text value => some value

/-- The value as it is shown inside of a reply. -/
def shown : ReplyValue → List Char
  | .number value => value.plain
  | .text value => Text.quoted value.toList

end ReplyValue

/-- What a device answered. -/
structure Reply where
  /-- Zero for success, negative to ask for another attempt, positive for a refusal. -/
  status : Int32
  values : List ReplyValue
  id : Option UInt8
  /-- The check of the line before it. -/
  crc : Option UInt8
  deriving DecidableEq, Repr

namespace Reply

def shown (reply : Reply) : List Char :=
  '[' :: signed reply.status.toInt ++
    (reply.values.flatMap fun value => ',' :: value.shown) ++ [']']

/-- The error of asking for something that is not at a place. -/
def missing (reply : Reply) (index : Nat) (expected : String) : Error :=
  .malformedReply (String.ofList reply.shown)
    ("expected " ++ expected ++ " at position " ++ toString (index + 1))

/-- The number at a place; the first value after the status has place zero. -/
def number (reply : Reply) (index : Nat) : Except Error Binary64 :=
  match reply.values[index]?.bind ReplyValue.number? with
  | some value => .ok value
  | none => .error (reply.missing index "a number")

/-- The integer at a place: a number without fractional part that fits in 64 bits. -/
def integer (reply : Reply) (index : Nat) : Except Error Int64 :=
  match reply.number index with
  | .error error => .error error
  | .ok value =>
    match value.toInt?.bind Word.int64? with
    | some whole => .ok whole
    | none => .error (reply.missing index "an integer")

def text (reply : Reply) (index : Nat) : Except Error String :=
  match reply.values[index]?.bind ReplyValue.text? with
  | some value => .ok value
  | none => .error (reply.missing index "a string")

/-- The first text among the values, in which a device explains a refusal. -/
def message (reply : Reply) : Option String :=
  reply.values.findSome? ReplyValue.text?

end Reply

end RoverLink
