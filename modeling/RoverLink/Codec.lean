import RoverLink.Checksum.Crc8
import RoverLink.Checksum.Mode
import RoverLink.Command.Request
import RoverLink.Reply.Reading
import RoverLink.Reply.Status
import RoverLink.Text.Utf8

/-!
# Numbered frames

A codec writes the requests of one session and checks the replies to them.  With checks, requests
are numbered from zero on and start again after 255, and the suffix of a request is its number and
the check of all the text before the check, each as two hexadecimal digits.  A reply that carries a
check must carry the right one, and a reply that carries a number and reports success must carry the
number of the last request.
-/

namespace RoverLink

/-- How requests are written, and the number of the last one. -/
structure Codec where
  mode : ChecksumMode
  /-- The number of the last request. -/
  lastId : UInt8
  deriving DecidableEq, Repr

/-- What a line means to a session that waits for a reply. -/
inductive LineVerdict where
  | skipped
  | answer (reply : Reply)
  | corrupted
  /-- The line is a frame that gives no reply. -/
  | undecodable (error : DecodeError)
  deriving DecidableEq, Repr

namespace Codec

/-- A codec whose first request has the number zero. -/
def new (mode : ChecksumMode) : Codec :=
  ⟨mode, 255⟩

/-- An octet as two hexadecimal digits in lower case. -/
def hexDigits (octet : UInt8) : List Char :=
  [Nat.digitChar (octet.toNat / 16), Nat.digitChar (octet.toNat % 16)]

def checkedHead (command : Command) (id : UInt8) : List Char :=
  Request.head command ++ hexDigits id

/-- The suffix of a request: its number, and the check of the text before. -/
def checkedSuffix (command : Command) (id : UInt8) : List Char :=
  hexDigits id ++ hexDigits (Checksum.crc8 (Text.Utf8.encode (checkedHead command id)))

/-- The request of a command, and the codec after it. -/
def encode (codec : Codec) (command : Command) : List Char × Codec :=
  match codec.mode with
  | .placeholder => (Request.plain command, codec)
  | .crc8 =>
    let id := codec.lastId + 1
    (Request.withSuffix command (checkedSuffix command id), ⟨codec.mode, id⟩)

/-- The octets without the last two, unless this would cut a character apart. -/
def withoutCheck? (octets : List UInt8) : Option (List UInt8) :=
  match octets.drop (octets.length - 2) with
  | next :: _ =>
    if Text.Utf8.isContinuation next then none else some (octets.take (octets.length - 2))
  | [] => some []

/--
Whether a line has the check that its reply carries.  There is no answer if the two octets of the
check would cut a character of the line apart.
-/
def verify? (codec : Codec) (line : List Char) (reply : Reply) : Option Bool :=
  match codec.mode, reply.crc with
  | .crc8, some expected =>
    let octets := Text.Utf8.encode (Text.trimEnd line)
    if octets.length < 2 then
      some false
    else
      (withoutCheck? octets).map fun checked => Checksum.crc8 checked == expected
  | _, _ => some true

/-- Whether a reply answers the last request; a refusal may carry any number. -/
def matchesRequest (codec : Codec) (reply : Reply) : Bool :=
  match codec.mode, reply.id with
  | .crc8, some id => id == codec.lastId || reply.status != 0
  | _, _ => true

/-- What a trimmed line means while the last request is not answered. -/
def judge (codec : Codec) (line : List Char) : LineVerdict :=
  match LineKind.ofLine line with
  | .noise => .skipped
  | .log _ => .skipped
  | .frame =>
    match Reply.read line with
    | .error .truncated => .skipped
    | .error error => .undecodable error
    | .ok reply =>
      if codec.verify? line reply ≠ some true then .corrupted
      else if codec.matchesRequest reply then .answer reply
      else .skipped

end Codec

end RoverLink
