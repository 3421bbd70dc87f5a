import RoverLink.Reply.Reading
import RoverLink.Text.Slice

/-!
# Reading replies by offsets

The brackets of a list and the digits of its metadata are found at offsets in the octets of a line,
and the list, the tail and the two octets are cut out there.  `readAt?` reads a line in this way,
and gives nothing if one of its cuts has no place.
-/

namespace RoverLink.Reply

/-- The offsets of the brackets of the list, in a line without line ends. -/
def bracketsAt? (line : List Char) : Option (Except DecodeError (Nat × Nat)) :=
  if line.head? = some '#' then
    match Text.offsetOf? '[' line with
    | none => some (.error (.malformed .missingBracket))
    | some opening => do
      let opened ← Text.sliceFrom? opening line
      match Text.offsetOf? ']' opened with
      | none => some (.error .truncated)
      | some width => some (.ok (opening, opening + width))
  else
    some (.error (.malformed .missingStartMarker))

def isHexDigit (character : Char) : Bool :=
  (Json.hexDigit? character).isSome

/-- The octet that a text of two hexadecimal digits stands for. -/
def octet? : List Char → Option UInt8
  | [high, low] => hexOctet? high low
  | _ => none

/-- The number of the answered request and the check, cut out of the text after the list. -/
def metadataAt? (tail : List Char) : Option (Option UInt8 × Option UInt8) :=
  match Text.trim tail with
  | ':' :: digits =>
    if Text.octetCount digits = 4 ∧ digits.all isHexDigit then do
      let id ← Text.slice? 0 2 digits
      let crc ← Text.slice? 2 4 digits
      return (← octet? id, ← octet? crc)
    else
      some (none, none)
  | _ => some (none, none)

/-- The reply that a line stands for, if every cut of the line has its place. -/
def readAt? (line : List Char) : Option (Except DecodeError Reply) := do
  let line := Text.dropEndWhile Text.isLineEnd line
  match ← bracketsAt? line with
  | .error error => return .error error
  | .ok (opening, closing) =>
    let list ← Text.slice? opening (closing + 1) line
    -- The tail is cut off only behind a list that gives a status and values.
    match ofParts list [] with
    | .error error => return .error error
    | .ok reply =>
      let tail ← Text.sliceFrom? (closing + 1) line
      let (id, crc) ← metadataAt? tail
      return .ok { reply with id, crc }

end RoverLink.Reply
