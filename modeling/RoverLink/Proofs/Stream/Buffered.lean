import RoverLink.Stream.Scripted

/-!
# Streams that keep their lines in order

A `BufferedStream` shows the lines that have arrived and can be read.  Lines
arrive behind those that are there, a read takes the first one, and dropping
input takes all of them or none.  A scripted stream is one: its lines are those
that its arrivals bring.
-/

namespace RoverLink

/-- The line that a read brought, if it brought one. -/
def ReadOutcome.lines : ReadOutcome → List (List Char)
  | .line text => [text]
  | _ => []

/-- Streams whose lines can be read in the order in which they arrived. -/
class BufferedStream (Stream : Type) extends ByteStream Stream where
  /-- The lines that can be read, oldest first. -/
  lines : Stream → List (List Char)
  /-- Writing takes no line away. -/
  lines_write : ∀ octets stream, lines stream <+: lines (write octets stream).stream
  /-- Reading takes at most the first line away, and then brings it. -/
  lines_readLine : ∀ stream,
    lines stream <+: (readLine stream).outcome.lines ++ lines (readLine stream).stream
  /-- Dropping input takes all lines away or none. -/
  lines_discardInput : ∀ stream,
    lines (discardInput stream).2 = [] ∨ lines stream <+: lines (discardInput stream).2

/-- What reading an arrival brings. -/
def Arrival.outcome : Arrival → ReadOutcome
  | .line text => .line text
  | .event .unplug _ => .failed Scripted.unplugged
  | .event (.failure kind message) _ => .failed ⟨kind, message.getD ""⟩
  | .event _ text => Scripted.brought text

theorem Arrival.outcome_ne_quiet (arrival : Arrival) :
    arrival.outcome ≠ .quiet := by
  rcases arrival with text | ⟨event, text⟩
  · simp [outcome]
  · cases event <;> cases text <;> simp [outcome, Scripted.brought]

namespace Scripted

/-- The lines of arrivals, in their order. -/
def linesOf (arrivals : List Arrival) : List (List Char) :=
  arrivals.flatMap fun arrival => arrival.outcome.lines

@[simp]
theorem linesOf_nil : linesOf [] = [] :=
  rfl

@[simp]
theorem linesOf_cons (arrival : Arrival) (arrivals : List Arrival) :
    linesOf (arrival :: arrivals) = arrival.outcome.lines ++ linesOf arrivals :=
  rfl

@[simp]
theorem linesOf_append (left right : List Arrival) :
    linesOf (left ++ right) = linesOf left ++ linesOf right := by
  simp [linesOf]

@[simp]
theorem linesOf_map_line (lines : List (List Char)) : linesOf (lines.map .line) = lines := by
  induction lines with
  | nil => rfl
  | cons line rest induction => simp [induction, Arrival.outcome, ReadOutcome.lines]

@[simp]
theorem outcome_receive (stream : Scripted) (arrival : Arrival) :
    (stream.receive arrival).outcome = arrival.outcome := by
  rcases arrival with text | ⟨event, text⟩
  · rfl
  · cases event <;> rfl

@[simp]
theorem readable_receive (stream : Scripted) (arrival : Arrival) :
    (stream.receive arrival).stream.readable = stream.readable := by
  rcases arrival with text | ⟨event, text⟩
  · rfl
  · cases event <;> rfl

theorem readLine_of_readable_eq_cons
    {stream : Scripted}
    {arrival : Arrival}
    {rest : List Arrival}
    (connected : stream.connected = true)
    (readable : stream.readable = arrival :: rest) :
    stream.readLine = Scripted.receive { stream with readable := rest } arrival := by
  simp [readLine, connected, readable]

theorem readLine_of_readable_eq_nil
    {stream : Scripted}
    (connected : stream.connected = true)
    (empty : stream.readable = []) :
    stream.readLine = ⟨.quiet, .none, false, stream⟩ := by
  simp [readLine, connected, empty]

theorem readLine_of_gone
    {stream : Scripted}
    (gone : stream.connected = false) :
    stream.readLine = ⟨.failed unplugged, .none, false, stream⟩ := by
  simp [readLine, gone]

theorem write_of_gone
    {stream : Scripted}
    (gone : stream.connected = false)
    (octets : List UInt8) :
    stream.write octets = ⟨.error unplugged, .none, false, stream⟩ := by
  simp [write, gone]

/-- A write to a connected stream takes the next batch from the script. -/
theorem write_of_connected
    {stream : Scripted}
    (connected : stream.connected = true)
    (octets : List UInt8) :
    stream.write octets =
      ⟨.ok (), .none, false,
        { stream with
          script := stream.script.tail
          readable := stream.readable ++ stream.script.head?.getD []
          written := stream.written ++ [octets] }⟩ := by
  rw [write]
  rw [if_pos connected]
  cases script : stream.script <;> simp

theorem discardInput_of_drops
    {stream : Scripted}
    (drops : stream.keepsInput = false ∧ stream.failsDiscard = false) :
    stream.discardInput =
      (.ok (), { stream with
        discarded := stream.discarded ++ stream.readable
        readable := [] }) := by
  simp [discardInput, drops.1, drops.2]

theorem lines_write (octets : List UInt8) (stream : Scripted) :
    linesOf stream.readable <+: linesOf (stream.write octets).stream.readable := by
  rw [write]
  split
  · split
    · exact List.prefix_refl _
    next batch script _ => simp
  · exact List.prefix_refl _

/-- A read takes the line that it brings, and no other. -/
theorem lines_readLine_eq (stream : Scripted) :
    stream.readLine.outcome.lines ++ linesOf stream.readLine.stream.readable =
      linesOf stream.readable := by
  rw [readLine]
  split
  · split
    next empty => simp [empty, ReadOutcome.lines]
    next arrival rest readable => simp [readable]
  · rfl

theorem lines_discardInput (stream : Scripted) :
    linesOf stream.discardInput.2.readable = [] ∨
      linesOf stream.readable <+: linesOf stream.discardInput.2.readable := by
  rw [discardInput]
  split
  · exact Or.inr (List.prefix_refl _)
  · split
    · exact Or.inr (List.prefix_refl _)
    · exact Or.inl rfl

instance : BufferedStream Scripted where
  lines stream := linesOf stream.readable
  lines_write := lines_write
  lines_readLine stream := ⟨[], by rw [List.append_nil]; exact (lines_readLine_eq stream).symm⟩
  lines_discardInput := lines_discardInput

end Scripted

end RoverLink
