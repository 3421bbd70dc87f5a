import RoverLink.Json.Printer
import RoverLink.Json.Reader
import RoverLink.Reply
import RoverLink.Text.Blank

/-!
# Reading replies

A line that starts with `#` is a message of the device if `!` follows and a frame otherwise; any
other line is noise.

The values of a frame are the text from its first opening bracket to the first closing bracket after
it, which is read as a JSON list.  The first value is the status.  What follows the list is looked
at only if it is a colon and four hexadecimal digits: the number of the answered request and a
check.  A frame whose list is not closed is truncated, and the rest of it may still arrive.
-/

namespace RoverLink

open Decimal

/-- What kind of line was read. -/
inductive LineKind where
  | noise
  | log (text : List Char)
  | frame
  deriving DecidableEq, Repr

/-- The kind of a line. -/
def LineKind.ofLine : List Char → LineKind
  | '#' :: '!' :: text => .log text
  | '#' :: _ => .frame
  | _ => .noise

/-- What is wrong with a frame that is complete. -/
inductive ReplyFault where
  | missingStartMarker
  | missingBracket
  /-- The JSON library refuses the list. -/
  | invalidList (list : List Char)
  | statusNotNumber
  | emptyList
  | invalidStatus (status : List Char)
  | unsupportedValue (value : List Char)
  deriving DecidableEq, Repr

namespace ReplyFault

def reason : ReplyFault → Reason
  | .missingStartMarker => "missing start marker"
  | .missingBracket => "missing '['"
  | .invalidList list => .refusedList (String.ofList list)
  | .statusNotNumber => "status is not a number"
  | .emptyList => "empty value list"
  | .invalidStatus status => "invalid status code: " ++ String.ofList status
  | .unsupportedValue value => "unsupported value: " ++ String.ofList value

end ReplyFault

/-- Why a line gives no reply. -/
inductive DecodeError where
  | truncated
  | malformed (fault : ReplyFault)
  deriving DecidableEq, Repr

namespace DecodeError

def reason : DecodeError → Reason
  | .truncated => "truncated frame"
  | .malformed fault => fault.reason

/-- The error of an operation that was answered with the line. -/
def toError (line : List Char) (error : DecodeError) : Error :=
  .malformedReply (String.ofList line) error.reason

end DecodeError

namespace Reply

/-- The greatest depth of a list of values. -/
def maximumDepth : Nat :=
  127

def readStatus : Document → Except ReplyFault Int32
  | .whole value =>
    match Word.int32? value with
    | some status => .ok status
    | none => .error (.invalidStatus (signed value))
  | .real value =>
    match value.toInt?.bind Word.int32? with
    | some status => .ok status
    | none => .error (.invalidStatus (Json.scalar (.real value)))
  | _ => .error .statusNotNumber

def readValue : Document → Except ReplyFault ReplyValue
  | .whole value => .ok (.number (Binary64.ofInt value))
  | .real value => .ok (.number value)
  | .text value => .ok (.text value)
  | other => .error (.unsupportedValue (Json.compact other.sorted))

/-- The values that documents stand for; the first wrong one is reported. -/
def readValues : List Document → Except ReplyFault (List ReplyValue)
  | [] => .ok []
  | document :: rest =>
    match readValue document with
    | .error fault => .error fault
    | .ok value =>
      match readValues rest with
      | .error fault => .error fault
      | .ok values => .ok (value :: values)

/-- The items of a JSON list that can be read as a whole. -/
def readList (text : List Char) : Option (List Document) :=
  match Json.read? text with
  | some (.list items) =>
    if (Document.list items).isReadable ∧ (Document.list items).depth ≤ maximumDepth then some items
    else none
  | _ => none

def hexOctet? (high low : Char) : Option UInt8 := do
  return UInt8.ofNat ((← Json.hexDigit? high) * 16 + (← Json.hexDigit? low))

/-- The number of the answered request and the check, if the text after the list holds them. -/
def readMetadata (tail : List Char) : Option UInt8 × Option UInt8 :=
  match Text.trim tail with
  | [':', first, second, third, fourth] =>
    match hexOctet? first second, hexOctet? third fourth with
    | some id, some crc => (some id, some crc)
    | _, _ => (none, none)
  | _ => (none, none)

/-- The text from the first opening bracket on. -/
def fromBracket (line : List Char) : List Char :=
  line.dropWhile (· != '[')

/-- The reply whose list of values, brackets included, and whose tail are given. -/
def ofParts (list tail : List Char) : Except DecodeError Reply :=
  match readList list with
  | none => .error (.malformed (.invalidList list))
  | some [] => .error (.malformed .emptyList)
  | some (first :: rest) =>
    match readStatus first with
    | .error fault => .error (.malformed fault)
    | .ok status =>
      match readValues rest with
      | .error fault => .error (.malformed fault)
      | .ok values =>
        let (id, crc) := readMetadata tail
        .ok ⟨status, values, id, crc⟩

/-- The reply that a line stands for; line ends at its end do not count. -/
def read (line : List Char) : Except DecodeError Reply :=
  match Text.dropEndWhile Text.isLineEnd line with
  | '#' :: rest =>
    match fromBracket rest with
    | [] => .error (.malformed .missingBracket)
    | opened =>
      match opened.dropWhile (· != ']') with
      | [] => .error .truncated
      | closing :: tail => ofParts (opened.takeWhile (· != ']') ++ [closing]) tail
  | _ => .error (.malformed .missingStartMarker)

end Reply

end RoverLink
