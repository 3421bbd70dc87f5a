import RoverLink.Stream

/-!
# Scripted streams

A scripted stream plays the part of a device: each successful write releases the next batch of its
script, whose lines can be read from then on, and lines can also be made readable without a write.
Between the lines stand events, which let time pass, cancel the caller's token, make a read fail or
disconnect the device.  The stream keeps what was written and which lines were dropped unread.
-/

namespace RoverLink

/-- What happens during one read. -/
inductive Event where
  | none
  | cancel
  /-- More time passes than a reply may take. -/
  | timeout
  /-- The caller's deadline passes. -/
  | deadline
  /-- The device is disconnected for good. -/
  | unplug
  | failure (kind : IoErrorKind) (message : Option String)
  deriving DecidableEq, Repr

/-- What one read consumes: a line, or an event that may bring one. -/
inductive Arrival where
  | line (text : List Char)
  | event (event : Event) (line : Option (List Char))
  deriving DecidableEq, Repr

def Event.name : Event → String
  | .none => "none"
  | .cancel => "cancel"
  | .timeout => "timeout"
  | .deadline => "deadline"
  | .unplug => "unplug"
  | .failure kind _ => kind.name

/-- The event with a name; a failure may have a message as well. -/
def Event.ofName? (name : String) (message : Option String) : Option Event :=
  match name with
  | "none" => some .none
  | "cancel" => some .cancel
  | "timeout" => some .timeout
  | "deadline" => some .deadline
  | "unplug" => some .unplug
  | other => (IoErrorKind.ofName? other).map fun kind => .failure kind message

/-- What an event shows besides its name: the message of a failure, or the line that it brings. -/
def Event.detail? (line : Option (List Char)) : Event → Option (List Char)
  | .failure _ message => message.map String.toList
  | _ => line

/-- The arrival as it is shown in a list of lines: an event starts with a bar. -/
def Arrival.shown : Arrival → List Char
  | .line text => text
  | .event happening text =>
    '|' :: happening.name.toList ++ ((happening.detail? text).map ('|' :: ·)).getD []

/-- A stream that follows a script. -/
structure Scripted where
  /-- The batches that the coming writes release. -/
  script : List (List Arrival)
  /-- What can be read now. -/
  readable : List Arrival
  written : List (List UInt8)
  /-- What was dropped unread, oldest first. -/
  discarded : List Arrival
  connected : Bool
  /-- Whether the next attempt to drop input fails. -/
  failsDiscard : Bool
  /-- Whether dropping input has no effect. -/
  keepsInput : Bool
  deriving DecidableEq, Repr

namespace Scripted

def empty : Scripted :=
  ⟨[], [], [], [], true, false, false⟩

/-- The failure of every read and write on a device that is gone. -/
def unplugged : IoError :=
  ⟨.brokenPipe, "device unplugged"⟩

def discardFailed : IoError :=
  ⟨.other, "discard failed"⟩

/-- The stream with one more batch at the end of its script. -/
def reply (batch : List Arrival) (stream : Scripted) : Scripted :=
  { stream with script := stream.script ++ [batch] }

/-- The stream with the same single line for several writes at the end of its script. -/
def replyRepeated (arrival : Arrival) (count : Nat) (stream : Scripted) : Scripted :=
  { stream with script := stream.script ++ List.replicate count [arrival] }

/-- The stream with one more line that can be read. -/
def push (arrival : Arrival) (stream : Scripted) : Scripted :=
  { stream with readable := stream.readable ++ [arrival] }

def disconnect (stream : Scripted) : Scripted :=
  { stream with connected := false }

/-- Write octets and release the next batch. -/
def write (octets : List UInt8) (stream : Scripted) : Response Scripted (Except IoError Unit) :=
  if stream.connected then
    match stream.script with
    | [] => ⟨.ok (), .none, false, { stream with written := stream.written ++ [octets] }⟩
    | batch :: script =>
      ⟨.ok (), .none, false,
        { stream with
          script
          readable := stream.readable ++ batch
          written := stream.written ++ [octets] }⟩
  else
    ⟨.error unplugged, .none, false, stream⟩

/-- What a read with a line, or without one, brings. -/
def brought : Option (List Char) → ReadOutcome
  | some text => .line text
  | none => .nothing

/-- Read an arrival that has been taken out of the stream. -/
def receive (stream : Scripted) : Arrival → Response Scripted ReadOutcome
  | .line text => ⟨.line text, .none, false, stream⟩
  | .event .none line => ⟨brought line, .none, false, stream⟩
  | .event .cancel line => ⟨brought line, .none, true, stream⟩
  | .event .timeout line => ⟨brought line, .pastReplyTimeout, false, stream⟩
  | .event .deadline line => ⟨brought line, .pastDeadline, false, stream⟩
  | .event .unplug _ => ⟨.failed unplugged, .none, false, stream.disconnect⟩
  | .event (.failure kind message) _ =>
    ⟨.failed ⟨kind, message.getD ""⟩, .none, false, stream⟩

def readLine (stream : Scripted) : Response Scripted ReadOutcome :=
  if stream.connected then
    match stream.readable with
    | [] => ⟨.quiet, .none, false, stream⟩
    | arrival :: readable => { stream with readable }.receive arrival
  else
    ⟨.failed unplugged, .none, false, stream⟩

def discardInput (stream : Scripted) : Except IoError Unit × Scripted :=
  if stream.keepsInput then
    (.ok (), stream)
  else if stream.failsDiscard then
    (.error discardFailed, { stream with failsDiscard := false })
  else
    (.ok (), { stream with discarded := stream.discarded ++ stream.readable, readable := [] })

/-- How many lines and events have not been read. -/
def supply (stream : Scripted) : Nat :=
  stream.readable.length + stream.script.flatten.length

theorem supply_write (octets : List UInt8) (stream : Scripted) :
    supply (stream.write octets).stream ≤ stream.supply := by
  rw [write]
  split
  · split
    next ends => simp [supply, ends]
    next batch script starts => simp [supply, starts]; omega
  · exact Nat.le_refl _

theorem supply_discardInput (stream : Scripted) :
    supply stream.discardInput.2 ≤ stream.supply := by
  rw [discardInput]
  split
  · exact Nat.le_refl _
  · split <;> simp [supply]

@[simp]
theorem supply_receive (stream : Scripted) (arrival : Arrival) :
    supply (stream.receive arrival).stream = stream.supply := by
  simp only [receive]
  split <;> rfl

theorem supply_readLine_lt
    (stream : Scripted)
    (retried : stream.readLine.outcome.isRetried = true) :
    supply stream.readLine.stream < stream.supply := by
  revert retried
  rw [readLine]
  split
  · split
    · simp [ReadOutcome.isRetried]
    next arrival readable starts =>
      intro _
      rw [supply_receive]
      simp [supply, starts]
  · simp [ReadOutcome.isRetried, IoError.isReadTimeout, unplugged]

theorem supply_readLine (stream : Scripted) :
    supply stream.readLine.stream ≤ stream.supply := by
  rw [readLine]
  split
  · split
    · exact Nat.le_refl _
    next arrival readable starts =>
      rw [supply_receive]
      simp [supply, starts]
  · exact Nat.le_refl _

instance : ByteStream Scripted where
  write := write
  readLine := readLine
  discardInput := discardInput
  supply := supply
  supply_write := supply_write
  supply_discardInput := supply_discardInput
  supply_readLine := supply_readLine
  supply_readLine_lt := supply_readLine_lt

end Scripted

end RoverLink
