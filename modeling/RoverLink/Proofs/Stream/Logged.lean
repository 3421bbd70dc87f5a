import RoverLink.Proofs.Session.StreamMap

/-!
# Streams that keep a log

A `Logged` stream does what the stream inside of it does, and keeps a log of
what was asked of it and of what came of that.  Every stream can be logged:
unlike the record of a traced stream, the log says nothing about the lines that
wait to be read.

What is proved of commands, calls and waits over a logged stream holds of the
stream itself: the log takes no part in them (`Session.deliverAll_forget`,
`Device.after_forget`, `Cnc.wait_forget`).
-/

namespace RoverLink

/-- What was asked of a stream, and what came of it. -/
inductive Access where
  | write (octets : List UInt8) (outcome : Except IoError Unit)
  | read (outcome : ReadOutcome)
  | discard (outcome : Except IoError Unit)

/-- Octets that were to be written, and whether they were. -/
structure Transfer where
  octets : List UInt8
  delivered : Bool
  deriving DecidableEq, Repr

def Access.transfer? : Access → Option Transfer
  | .write octets outcome => some ⟨octets, outcome.isOk⟩
  | _ => none

/-- A stream with the log of its accesses. -/
structure Logged (Stream : Type) where
  stream : Stream
  log : List Access

namespace Logged

variable {Stream : Type}

/-- A stream with an empty log. -/
def start (stream : Stream) : Logged Stream :=
  ⟨stream, []⟩

/-- The stream after something happened to it that nobody asked for. -/
def meanwhile (change : Stream → Stream) (logged : Logged Stream) : Logged Stream :=
  { logged with stream := change logged.stream }

/-- All that was to be written, in its order. -/
def transfers (logged : Logged Stream) : List Transfer :=
  logged.log.filterMap Access.transfer?

variable [ByteStream Stream]

instance : ByteStream (Logged Stream) where
  write octets logged :=
    let response := ByteStream.write octets logged.stream
    ⟨response.outcome, response.lapse, response.cancels,
      ⟨response.stream, logged.log ++ [.write octets response.outcome]⟩⟩
  readLine logged :=
    let response := ByteStream.readLine logged.stream
    ⟨response.outcome, response.lapse, response.cancels,
      ⟨response.stream, logged.log ++ [.read response.outcome]⟩⟩
  discardInput logged :=
    let dropped := ByteStream.discardInput logged.stream
    (dropped.1, ⟨dropped.2, logged.log ++ [.discard dropped.1]⟩)
  supply logged := ByteStream.supply logged.stream
  supply_write octets logged := ByteStream.supply_write octets logged.stream
  supply_discardInput logged := ByteStream.supply_discardInput logged.stream
  supply_readLine logged := ByteStream.supply_readLine logged.stream
  supply_readLine_lt logged := ByteStream.supply_readLine_lt logged.stream

/-- Leaving out the log. -/
def forget : StreamMap (Logged Stream) Stream where
  toFun := Logged.stream
  write_toFun _ _ := rfl
  readLine_toFun _ := rfl
  discardInput_toFun _ := rfl

theorem log_readLine (logged : Logged Stream) :
    (ByteStream.readLine logged).stream.log =
      logged.log ++ [.read (ByteStream.readLine logged).outcome] :=
  rfl

@[simp]
theorem transfers_write (octets : List UInt8) (logged : Logged Stream) :
    (ByteStream.write octets logged).stream.transfers =
      logged.transfers ++ [⟨octets, (ByteStream.write octets logged).outcome.isOk⟩] :=
  List.filterMap_append

@[simp]
theorem transfers_readLine (logged : Logged Stream) :
    (ByteStream.readLine logged).stream.transfers = logged.transfers :=
  List.filterMap_append.trans (List.append_nil _)

@[simp]
theorem transfers_discardInput (logged : Logged Stream) :
    (ByteStream.discardInput logged).2.transfers = logged.transfers :=
  List.filterMap_append.trans (List.append_nil _)

end Logged

end RoverLink
