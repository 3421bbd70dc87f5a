import RoverLink.Link.Params
import RoverLink.Stream.LineBuffer
import RoverLink.System.Fault

/-!
# Serial links

A serial link is a terminal that octets arrive at, and a line buffer.  One read takes a line out of
the buffer, or else at most 256 octets out of the terminal.  When the device is gone, what was left
in the terminal is lost, but lines that were already taken out can still be read, as no input can be
dropped any more.
-/

namespace RoverLink

/-- An open serial port. -/
structure SerialLink where
  name : String
  /-- The octets that have arrived at the terminal. -/
  terminal : List UInt8
  /-- The octets that have been taken out of the terminal. -/
  buffer : LineBuffer
  written : List UInt8
  connected : Bool
  deriving DecidableEq, Repr

namespace SerialLink

/-- The most octets that one read takes out of the terminal. -/
def chunkSize : Nat :=
  256

/-- The failure of reading and writing when the device is gone. -/
def brokenPipe : IoError :=
  ⟨.brokenPipe, "Broken pipe"⟩

/-- The failure of dropping input when the device is gone. -/
def clearFailed : IoError :=
  ⟨.other, SystemFault.inputOutput.portMessage⟩

/-- The failure of waiting until all is written when the device is gone. -/
def flushFailed : IoError :=
  ⟨.other, "flush failed"⟩

/-- The failure of a read that found nothing in time. -/
def readTimeout : IoError :=
  ⟨.timedOut, "Operation timed out"⟩

/--
Open a link: the parameters are checked first, and then the system gives what has arrived at the
terminal, or the reason for which it cannot open the port.
-/
def openPort (params : LinkParams) (terminal : Except SystemFault (List UInt8)) :
    Except Error SerialLink :=
  match params.validate with
  | .error error => .error error
  | .ok () =>
    match terminal with
    | .error fault => .error (.failedToOpen params.port fault.portMessage)
    | .ok octets => .ok ⟨params.port, octets, .empty, [], true⟩

/-- The link after octets have arrived at its terminal. -/
def receive (octets : List UInt8) (link : SerialLink) : SerialLink :=
  { link with terminal := link.terminal ++ octets }

def unplug (link : SerialLink) : SerialLink :=
  { link with connected := false, terminal := [] }

/-- Write octets to the device, and wait until they are written. -/
def write (octets : List UInt8) (link : SerialLink) : Response SerialLink (Except IoError Unit) :=
  if link.connected then
    ⟨.ok (), .none, false, { link with written := link.written ++ octets }⟩
  else
    ⟨.error (if octets = [] then flushFailed else brokenPipe), .none, false, link⟩

def fetch (link : SerialLink) : Except IoError (List UInt8) :=
  if link.connected then
    if link.terminal = [] then .error readTimeout else .ok (link.terminal.take chunkSize)
  else
    .error brokenPipe

/-- What reading one line means to a session: silence, if nothing is left at the terminal. -/
def outcome (link : SerialLink) : Except IoError (Option (List Char)) → ReadOutcome
  | .ok (some line) => .line line
  | .ok none => if link.terminal = [] then .quiet else .nothing
  | .error error => .failed error

/-- The link without the octets that one read takes out of the terminal. -/
def afterFetch (link : SerialLink) (buffer : LineBuffer) : SerialLink :=
  { link with buffer, terminal := link.terminal.drop chunkSize }

def readLine (link : SerialLink) : Response SerialLink ReadOutcome :=
  match link.buffer.nextLine with
  | (some line, buffer) => ⟨.line line, .none, false, { link with buffer }⟩
  | (none, buffer) =>
    let read := buffer.absorb link.fetch
    ⟨link.outcome read.1, .none, false, link.afterFetch read.2⟩

/-- Drop what has arrived; when the device is gone, nothing is dropped. -/
def discardInput (link : SerialLink) : Except IoError Unit × SerialLink :=
  if link.connected then
    (.ok (), { link with terminal := [], buffer := .empty })
  else
    (.error clearFailed, link)

/-- The octets not read yet; those at the terminal count twice, as they will be moved once. -/
def supply (link : SerialLink) : Nat :=
  2 * link.terminal.length + link.buffer.pending.length

theorem supply_write (octets : List UInt8) (link : SerialLink) :
    supply (link.write octets).stream ≤ link.supply := by
  rw [write]
  split <;> exact Nat.le_refl _

theorem supply_discardInput (link : SerialLink) :
    supply link.discardInput.2 ≤ link.supply := by
  rw [discardInput]
  split
  · simp [supply, LineBuffer.empty]
  · exact Nat.le_refl _

/--
Taking octets out of the terminal adds nothing to the supply, and uses it up if there are any.
-/
theorem supply_afterFetch
    (link : SerialLink)
    (buffer : LineBuffer)
    (le : buffer.pending.length ≤ link.buffer.pending.length) :
    supply (link.afterFetch (buffer.absorb link.fetch).2) ≤ link.supply ∧
      (link.connected = true → link.terminal ≠ [] →
        supply (link.afterFetch (buffer.absorb link.fetch).2) < link.supply) := by
  rw [fetch]
  split
  next connected =>
    split
    next nothing => simp [LineBuffer.absorb, readTimeout, afterFetch, supply, nothing, le]
    next something =>
      obtain ⟨octet, octets, arrived⟩ := List.exists_cons_of_ne_nil something
      have moved := ((buffer.extend (link.terminal.take chunkSize))).length_nextLine_le
      simp only [LineBuffer.extend, List.length_append, List.length_take] at moved
      have shape : link.terminal.take chunkSize = octet :: octets.take 255 := by
        simp [arrived, chunkSize]
      have absorbed : (buffer.absorb (.ok (link.terminal.take chunkSize))).2 =
          (buffer.extend (link.terminal.take chunkSize)).nextLine.2 := by
        rw [shape]
        rfl
      have positive : 0 < link.terminal.length := by simp [arrived]
      have sized : 0 < chunkSize := by decide
      rw [absorbed]
      simp only [afterFetch, supply, LineBuffer.extend, List.length_drop]
      omega
  next gone =>
    simp [LineBuffer.absorb, brokenPipe, afterFetch, supply, gone]
    omega

theorem supply_readLine (link : SerialLink) :
    supply link.readLine.stream ≤ link.supply := by
  have shorter := link.buffer.length_nextLine_le
  rw [readLine]
  split
  next line buffer found =>
    rw [found] at shorter
    simp only [supply] at shorter ⊢
    omega
  next buffer found =>
    rw [found] at shorter
    exact (link.supply_afterFetch buffer shorter).1

theorem supply_readLine_lt
    (link : SerialLink)
    (retried : link.readLine.outcome.isRetried = true) :
    supply link.readLine.stream < link.supply := by
  have shorter := link.buffer.length_nextLine_le
  revert retried
  rw [readLine]
  split
  next line buffer found =>
    intro _
    have less := link.buffer.length_nextLine_lt line (by rw [found])
    rw [found] at less
    simp only [supply] at less ⊢
    omega
  next buffer found =>
    rw [found] at shorter
    intro retried
    have fetched := (link.supply_afterFetch buffer shorter).2
    by_cases connected : link.connected = true
    · by_cases nothing : link.terminal = []
      · simp [fetch, connected, nothing, LineBuffer.absorb, readTimeout, outcome,
          ReadOutcome.isRetried] at retried
      · exact fetched connected nothing
    · simp [fetch, connected, LineBuffer.absorb, brokenPipe, outcome, ReadOutcome.isRetried,
        IoError.isReadTimeout] at retried

instance : ByteStream SerialLink where
  write := write
  readLine := readLine
  discardInput := discardInput
  supply := supply
  supply_write := supply_write
  supply_discardInput := supply_discardInput
  supply_readLine := supply_readLine
  supply_readLine_lt := supply_readLine_lt

end SerialLink

end RoverLink
