import RoverLink.Stream
import RoverLink.Text.Utf8

/-!
# Lines out of octets

A line buffer takes octets in chunks of any size and gives the lines that are complete.  A carriage
return or a line feed ends a line; lines without octets are passed over, so both together end a line
only once.
-/

namespace RoverLink

/-- The octets that have not been given out as lines. -/
structure LineBuffer where
  /-- The octets, oldest first. -/
  pending : List UInt8
  deriving DecidableEq, Repr

namespace LineBuffer

def isTerminator (octet : UInt8) : Bool :=
  octet == 13 || octet == 10

def empty : LineBuffer :=
  ⟨[]⟩

def extend (buffer : LineBuffer) (octets : List UInt8) : LineBuffer :=
  ⟨buffer.pending ++ octets⟩

/-- The octets of the first line that is not empty, finished or not, and all after them. -/
def body (buffer : LineBuffer) : List UInt8 :=
  buffer.pending.dropWhile isTerminator

/-- The first complete line that is not empty, and the buffer without it. -/
def nextLine (buffer : LineBuffer) : Option (List Char) × LineBuffer :=
  match buffer.body.dropWhile fun octet => !isTerminator octet with
  | [] => (none, ⟨buffer.body⟩)
  | _ :: rest =>
    (some (Text.Utf8.lossy (buffer.body.takeWhile fun octet => !isTerminator octet)), ⟨rest⟩)

/-- The failure of a read that brings no octets at all. -/
def closed : IoError :=
  ⟨.unexpectedEof, "serial port closed"⟩

/--
The line that a read of octets completes, if it completes one; running out of time is no failure.
-/
def absorb (buffer : LineBuffer) :
    Except IoError (List UInt8) → Except IoError (Option (List Char)) × LineBuffer
  | .ok [] => (.error closed, buffer)
  | .ok (octet :: octets) =>
    let next := (buffer.extend (octet :: octets)).nextLine
    (.ok next.1, next.2)
  | .error error => if error.kind = .timedOut then (.ok none, buffer) else (.error error, buffer)

/-- A buffered line, or else the line that one read of octets completes. -/
def readFrom (buffer : LineBuffer) (source : Except IoError (List UInt8)) :
    Except IoError (Option (List Char)) × LineBuffer :=
  match buffer.nextLine with
  | (some line, buffer) => (.ok (some line), buffer)
  | (none, buffer) => buffer.absorb source

theorem length_body_le (buffer : LineBuffer) : buffer.body.length ≤ buffer.pending.length :=
  (List.dropWhile_sublist _).length_le

/-- Asking for a line never adds octets. -/
theorem length_nextLine_le (buffer : LineBuffer) :
    buffer.nextLine.2.pending.length ≤ buffer.pending.length := by
  have body := buffer.length_body_le
  rw [nextLine]
  split
  · exact body
  next octet rest found =>
    have rests := (List.dropWhile_sublist
      (l := buffer.body) fun octet => !isTerminator octet).length_le
    rw [found] at rests
    simp only [List.length_cons] at rests ⊢
    omega

/-- A line that is given out takes octets with it. -/
theorem length_nextLine_lt
    (buffer : LineBuffer)
    (line : List Char)
    (found : buffer.nextLine.1 = some line) :
    buffer.nextLine.2.pending.length < buffer.pending.length := by
  have body := buffer.length_body_le
  revert found
  rw [nextLine]
  split
  · simp
  next octet rest found =>
    intro _
    have rests := (List.dropWhile_sublist
      (l := buffer.body) fun octet => !isTerminator octet).length_le
    rw [found] at rests
    simp only [List.length_cons] at rests ⊢
    omega

end LineBuffer

end RoverLink
