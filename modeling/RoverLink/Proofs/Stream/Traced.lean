import RoverLink.Proofs.Stream.Buffered

/-!
# Streams that keep a record

A `Traced` stream does what the stream inside of it does, and keeps a record of
everything that was asked of it.  It also knows for each line that can be read
during which operation the line arrived: the origin of the line is the place of
that operation in the record.  So two lines with the same text are told apart,
and whether a line came with a certain write is a question about its origin.
-/

namespace RoverLink

/-- What was asked of a stream, and what came of it. -/
inductive Operation where
  /-- Nothing was asked, but lines may have arrived. -/
  | idle
  | write (octets : List UInt8) (outcome : Except IoError Unit)
  /-- A read, with the origin of the line that it brought. -/
  | read (outcome : ReadOutcome) (origin : Nat)
  | discard (outcome : Except IoError Unit)

/-- The octets that an operation was to write. -/
def Operation.written? : Operation → Option (List UInt8)
  | .write octets _ => some octets
  | _ => none

/-- The lines that an operation took out of the stream by reading them. -/
def Operation.taken : Operation → List (List Char)
  | .read outcome _ => outcome.lines
  | _ => []

/-- Whether an operation was to drop the input. -/
def Operation.isDiscard : Operation → Bool
  | .discard _ => true
  | _ => false

/-- Whether an operation dropped the input. -/
def Operation.drops : Operation → Bool
  | .discard (.ok ()) => true
  | _ => false

theorem Operation.drops_eq_false
    {operation : Operation}
    (kept : operation.isDiscard = false) :
    operation.drops = false := by
  cases operation <;> simp_all [drops, isDiscard]

/-- A stream with the record of its operations. -/
structure Traced (Stream : Type) where
  stream : Stream
  operations : List Operation
  /-- The origins of the lines that can be read, oldest first. -/
  origins : List Nat

namespace Traced

/-- The origins of `count` lines when all lines without an origin have just arrived. -/
def follow (origins : List Nat) (now count : Nat) : List Nat :=
  origins.take count ++ List.replicate (count - origins.length) now

@[simp]
theorem length_follow (origins : List Nat) (now count : Nat) :
    (follow origins now count).length = count := by
  simp [follow]
  omega

theorem follow_of_length_eq
    {origins : List Nat}
    {now count : Nat}
    (same : origins.length = count) :
    follow origins now count = origins := by
  simp [follow, ← same]

/-- Lines keep their origins when others arrive behind them. -/
theorem getElem?_follow
    {origins : List Nat}
    {now count place : Nat}
    (more : origins.length ≤ count)
    (inside : place < origins.length) :
    (follow origins now count)[place]? = origins[place]? := by
  rw [follow, List.take_of_length_le more, List.getElem?_append_left inside]

theorem mem_follow
    {origins : List Nat}
    {now count origin : Nat}
    (member : origin ∈ follow origins now count) :
    origin ∈ origins ∨ origin = now := by
  rcases List.mem_append.mp member with old | new
  · exact Or.inl (List.mem_of_mem_take old)
  · exact Or.inr (List.eq_of_mem_replicate new)

section

variable {Stream : Type}

/-- The place of the next operation in the record. -/
def now (traced : Traced Stream) : Nat :=
  traced.operations.length

/-- The origin of the line that a read brings: it may have arrived just now. -/
def nextOrigin (traced : Traced Stream) : Nat :=
  traced.origins.head?.getD traced.now

variable [BufferedStream Stream]

/-- A stream at the beginning of its record. -/
def start (stream : Stream) : Traced Stream :=
  ⟨stream, [.idle], List.replicate (BufferedStream.lines stream).length 0⟩

/-- The stream after an operation that took the first `taken` lines. -/
def note
    (operation : Operation)
    (taken : Nat)
    (stream : Stream)
    (traced : Traced Stream) :
    Traced Stream :=
  ⟨stream, traced.operations ++ [operation],
    follow (traced.origins.drop taken) traced.now (BufferedStream.lines stream).length⟩

def write
    (octets : List UInt8)
    (traced : Traced Stream) :
    Response (Traced Stream) (Except IoError Unit) :=
  let response := ByteStream.write octets traced.stream
  ⟨response.outcome, response.lapse, response.cancels,
    traced.note (.write octets response.outcome) 0 response.stream⟩

def readLine (traced : Traced Stream) : Response (Traced Stream) ReadOutcome :=
  let response := ByteStream.readLine traced.stream
  ⟨response.outcome, response.lapse, response.cancels,
    traced.note (.read response.outcome traced.nextOrigin) response.outcome.lines.length
      response.stream⟩

def discardInput (traced : Traced Stream) : Except IoError Unit × Traced Stream :=
  let dropped := ByteStream.discardInput traced.stream
  (dropped.1, traced.note (.discard dropped.1) 0 dropped.2)

def idle (change : Stream → Stream) (traced : Traced Stream) : Traced Stream :=
  traced.note .idle 0 (change traced.stream)

instance : ByteStream (Traced Stream) where
  write := write
  readLine := readLine
  discardInput := discardInput
  supply traced := ByteStream.supply traced.stream
  supply_write octets traced := ByteStream.supply_write octets traced.stream
  supply_discardInput traced := ByteStream.supply_discardInput traced.stream
  supply_readLine traced := ByteStream.supply_readLine traced.stream
  supply_readLine_lt traced := ByteStream.supply_readLine_lt traced.stream

/-! ### What a record keeps -/

@[simp]
theorem now_note
    (operation : Operation)
    (taken : Nat)
    (stream : Stream)
    (traced : Traced Stream) :
    (traced.note operation taken stream).now = traced.now + 1 := by
  simp [note, now]

theorem mem_origins_note
    {operation : Operation}
    {taken : Nat}
    {stream : Stream}
    {traced : Traced Stream}
    {origin : Nat}
    (member : origin ∈ (traced.note operation taken stream).origins) :
    origin ∈ traced.origins ∨ origin = traced.now := by
  rcases mem_follow member with old | new
  · exact Or.inl (List.mem_of_mem_drop old)
  · exact Or.inr new

/-- Every line that can be read has an origin, and the origin is an operation of the record. -/
structure Sound (traced : Traced Stream) : Prop where
  aligned : traced.origins.length = (BufferedStream.lines traced.stream).length
  dated : ∀ origin ∈ traced.origins, origin < traced.now

theorem sound_start (stream : Stream) : Sound (start stream) where
  aligned := by simp [start]
  dated := by
    intro origin member
    rw [List.eq_of_mem_replicate member]
    exact Nat.zero_lt_one

theorem Sound.note
    {traced : Traced Stream}
    (sound : traced.Sound)
    (operation : Operation)
    (taken : Nat)
    (stream : Stream) :
    (traced.note operation taken stream).Sound where
  aligned := length_follow _ _ _
  dated := by
    intro origin member
    rw [now_note]
    rcases mem_origins_note member with old | new
    · exact Nat.lt_succ_of_lt (sound.dated origin old)
    · exact new ▸ Nat.lt_succ_self _

/--
All lines of a kind that can be read arrived at a place of the record or behind
it.
-/
structure Since (wanted : List Char → Prop) (place : Nat) (traced : Traced Stream) : Prop where
  aligned : traced.origins.length = (BufferedStream.lines traced.stream).length
  reached : place ≤ traced.now
  /-- No line of the kind arrived before it. -/
  recent : ∀ entry ∈ (BufferedStream.lines traced.stream).zip traced.origins,
    wanted entry.1 → place ≤ entry.2

/-- If there is no line of the kind, none has arrived before now. -/
theorem Since.of_unwanted
    {traced : Traced Stream}
    {wanted : List Char → Prop}
    (aligned : traced.origins.length = (BufferedStream.lines traced.stream).length)
    (unwanted : ∀ text ∈ BufferedStream.lines traced.stream, ¬ wanted text) :
    traced.Since wanted traced.now where
  aligned := aligned
  reached := Nat.le_refl _
  recent entry member isWanted := (unwanted entry.1 (List.of_mem_zip member).1 isWanted).elim

theorem Since.note
    {wanted : List Char → Prop}
    {place taken : Nat}
    {stream : Stream}
    {traced : Traced Stream}
    (since : traced.Since wanted place)
    (operation : Operation)
    (kept : (BufferedStream.lines traced.stream).drop taken <+: BufferedStream.lines stream) :
    (traced.note operation taken stream).Since wanted place where
  aligned := length_follow _ _ _
  reached := by
    rw [now_note]
    exact Nat.le_succ_of_le since.reached
  recent := by
    rcases kept with ⟨new, arrived⟩
    have count : (traced.origins.drop taken).length =
        ((BufferedStream.lines traced.stream).drop taken).length := by
      rw [List.length_drop, List.length_drop, since.aligned]
    rintro ⟨text, origin⟩ member isWanted
    simp only [Traced.note, ← arrived, follow, List.length_append] at member
    rw [List.take_of_length_le (by omega), List.zip_append count.symm] at member
    rcases List.mem_append.mp member with old | late
    · rw [List.zip_eq_zipWith, ← List.drop_zipWith] at old
      exact since.recent _ (List.mem_of_mem_drop old) isWanted
    · exact List.eq_of_mem_replicate (List.of_mem_zip late).2 ▸ since.reached

theorem Since.write
    {wanted : List Char → Prop}
    {place : Nat}
    {traced : Traced Stream}
    (since : traced.Since wanted place)
    (octets : List UInt8) :
    (traced.write octets).stream.Since wanted place :=
  since.note _ (BufferedStream.lines_write octets traced.stream)

theorem Since.readLine
    {wanted : List Char → Prop}
    {place : Nat}
    {traced : Traced Stream}
    (since : traced.Since wanted place) :
    traced.readLine.stream.Since wanted place := by
  rcases BufferedStream.lines_readLine traced.stream with ⟨new, read⟩
  have kept := congrArg
    (List.drop (ByteStream.readLine traced.stream).outcome.lines.length) read
  rw [List.drop_append, List.drop_left] at kept
  exact since.note _ ⟨_, kept⟩

theorem Since.discardInput
    {wanted : List Char → Prop}
    {place : Nat}
    {traced : Traced Stream}
    (since : traced.Since wanted place) :
    traced.discardInput.2.Since wanted place := by
  rcases BufferedStream.lines_discardInput traced.stream with gone | kept
  · refine ⟨length_follow _ _ _, ?_, ?_⟩
    · exact Nat.le_trans since.reached (by simp [Traced.discardInput])
    · intro entry member
      simp [Traced.discardInput, Traced.note, gone] at member
  · exact since.note _ kept

theorem Since.idle
    {wanted : List Char → Prop}
    {place : Nat}
    {traced : Traced Stream}
    (since : traced.Since wanted place)
    {change : Stream → Stream}
    (kept : ∀ stream, BufferedStream.lines stream <+: BufferedStream.lines (change stream)) :
    (traced.idle change).Since wanted place :=
  since.note _ (kept traced.stream)

/-- A line of the kind that is read did not arrive before the place. -/
theorem Since.le_nextOrigin
    {wanted : List Char → Prop}
    {place : Nat}
    {traced : Traced Stream}
    (since : traced.Since wanted place)
    {text : List Char}
    (brought : traced.readLine.outcome = .line text)
    (isWanted : wanted text) :
    place ≤ traced.nextOrigin := by
  have aligned := since.aligned
  have read := BufferedStream.lines_readLine traced.stream
  rw [show (ByteStream.readLine traced.stream).outcome = .line text from brought] at read
  rw [nextOrigin]
  cases origins : traced.origins with
  | nil => exact since.reached
  | cons origin rest =>
    cases lines : BufferedStream.lines traced.stream with
    | nil => simp [origins, lines] at aligned
    | cons first others =>
      rw [lines] at read
      have same : first = text := (List.cons_prefix_cons.mp read).1
      refine since.recent (text, origin) ?_ isWanted
      simp [origins, lines, same]

/-- Once all lines are gone, whatever can be read later arrives later. -/
theorem since_discardInput
    {traced : Traced Stream}
    (gone : BufferedStream.lines (ByteStream.discardInput traced.stream).2 = [])
    (wanted : List Char → Prop) :
    traced.discardInput.2.Since wanted traced.now where
  aligned := length_follow _ _ _
  reached := by
    rw [discardInput, now_note]
    exact Nat.le_succ _
  recent := by
    intro entry member
    simp [discardInput, Traced.note, gone] at member

/-! ### Writing and reading -/

/-- A record grows by writes and reads, in this order. -/
inductive Traffic (start : Traced Stream) : List Operation → Traced Stream → Prop where
  | none : Traffic start [] start
  | write {operations : List Operation} {finish : Traced Stream} (octets : List UInt8)
      (traffic : Traffic start operations finish) :
      Traffic start
        (operations ++ [.write octets (finish.write octets).outcome])
        (finish.write octets).stream
  | read {operations : List Operation} {finish : Traced Stream}
      (traffic : Traffic start operations finish) :
      Traffic start
        (operations ++ [.read finish.readLine.outcome finish.nextOrigin])
        finish.readLine.stream

namespace Traffic

variable {first second third : Traced Stream} {operations others : List Operation}

theorem trans
    (left : Traffic first operations second)
    (right : Traffic second others third) :
    Traffic first (operations ++ others) third := by
  induction right with
  | none => simpa using left
  | write octets _ induction => simpa using induction.write octets
  | read _ induction => simpa using induction.read

theorem operations_eq (traffic : Traffic first operations second) :
    second.operations = first.operations ++ operations := by
  induction traffic with
  | none => simp
  | write octets _ induction => simp [Traced.write, note, induction]
  | read _ induction => simp [readLine, note, induction]

theorem isDiscard_eq_false
    (traffic : Traffic first operations second)
    (operation : Operation)
    (member : operation ∈ operations) :
    operation.isDiscard = false := by
  induction traffic with
  | none => simp at member
  | write octets _ induction =>
    rcases List.mem_append.mp member with old | new
    · exact induction old
    · rw [List.mem_singleton.mp new]
      rfl
  | read _ induction =>
    rcases List.mem_append.mp member with old | new
    · exact induction old
    · rw [List.mem_singleton.mp new]
      rfl

theorem any_drops (traffic : Traffic first operations second) :
    operations.any Operation.drops = false := by
  rw [List.any_eq_false]
  intro operation member
  simp [Operation.drops_eq_false (traffic.isDiscard_eq_false operation member)]

theorem since
    {wanted : List Char → Prop}
    {place : Nat}
    (traffic : Traffic first operations second)
    (since : first.Since wanted place) :
    second.Since wanted place := by
  induction traffic with
  | none => exact since
  | write octets _ induction => exact induction.write octets
  | read _ induction => exact induction.readLine

theorem sound
    (traffic : Traffic first operations second)
    (sound : first.Sound) :
    second.Sound := by
  induction traffic with
  | none => exact sound
  | write octets _ induction => exact induction.note _ _ _
  | read _ induction => exact induction.note _ _ _

/-- Each line that could be read has been read, in its turn, or can still be read. -/
theorem lines_prefix (traffic : Traffic first operations second) :
    BufferedStream.lines first.stream <+:
      operations.flatMap Operation.taken ++ BufferedStream.lines second.stream := by
  induction traffic with
  | none => simp
  | @write operations finish octets _ induction =>
    have kept : BufferedStream.lines finish.stream <+:
        BufferedStream.lines (finish.write octets).stream.stream :=
      BufferedStream.lines_write octets finish.stream
    apply induction.trans
    simpa [Operation.taken] using kept
  | @read operations finish _ induction =>
    have kept : BufferedStream.lines finish.stream <+:
        finish.readLine.outcome.lines ++ BufferedStream.lines finish.readLine.stream.stream :=
      BufferedStream.lines_readLine finish.stream
    apply induction.trans
    simpa [Operation.taken] using kept

end Traffic

end

end Traced

end RoverLink
