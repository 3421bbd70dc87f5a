import RoverLink.Proofs.Stream.Traced

/-!
# Lines that were released by writes

The lines of a scripted stream arrive with its writes and not otherwise, as
long as nothing is pushed to it.  So on a traced scripted stream without lines
at its start, each line that can be read has a successful write for its origin,
and so has each line that was read (`IsSolicited`).
-/

namespace RoverLink.Traced

/-- Whether a place of the record is a write that succeeded. -/
def IsWrite (operations : List Operation) (place : Nat) : Prop :=
  ∃ octets, operations[place]? = some (.write octets (.ok ()))

theorem IsWrite.append
    {operations : List Operation}
    {place : Nat}
    (write : IsWrite operations place)
    (later : List Operation) :
    IsWrite (operations ++ later) place := by
  rcases write with ⟨octets, found⟩
  rcases List.getElem?_eq_some_iff.mp found with ⟨inside, _⟩
  exact ⟨octets, by rw [List.getElem?_append_left inside, found]⟩

/-- Every line that can be read, or was read, was released by a write. -/
structure IsSolicited (traced : Traced Scripted) : Prop where
  aligned : traced.origins.length = (BufferedStream.lines traced.stream).length
  /-- The lines that can be read. -/
  released : ∀ origin ∈ traced.origins, IsWrite traced.operations origin
  /-- The lines that were read. -/
  answered : ∀ text origin, .read (.line text) origin ∈ traced.operations →
    IsWrite traced.operations origin

/-- A read takes the origin of the line that it brings, and leaves the others. -/
theorem origins_readLine
    {traced : Traced Scripted}
    (aligned : traced.origins.length = (BufferedStream.lines traced.stream).length) :
    traced.readLine.stream.origins =
      traced.origins.drop traced.readLine.outcome.lines.length := by
  have read : (ByteStream.readLine traced.stream).outcome.lines ++
      BufferedStream.lines (ByteStream.readLine traced.stream).stream =
        BufferedStream.lines traced.stream :=
    Scripted.lines_readLine_eq traced.stream
  apply follow_of_length_eq
  rw [List.length_drop, aligned, ← read, List.length_append]
  exact Nat.add_sub_cancel_left _ _

theorem isSolicited_start
    {stream : Scripted}
    (empty : stream.readable = []) :
    (start stream).IsSolicited := by
  have noLines : BufferedStream.lines stream = [] := by
    show Scripted.linesOf stream.readable = []
    rw [empty]
    rfl
  refine ⟨by simp [start], ?_, ?_⟩
  · simp [start, noLines]
  · simp [start]

/-- An operation with which no line arrives brings no new origin. -/
theorem mem_origins_of_note
    {operation : Operation}
    {taken : Nat}
    {stream : Scripted}
    {traced : Traced Scripted}
    (aligned : traced.origins.length = (BufferedStream.lines traced.stream).length)
    (fewer : (BufferedStream.lines stream).length ≤
      (BufferedStream.lines traced.stream).length - taken)
    {origin : Nat}
    (member : origin ∈ (traced.note operation taken stream).origins) :
    origin ∈ traced.origins := by
  have none : (BufferedStream.lines stream).length - (traced.origins.drop taken).length = 0 := by
    rw [List.length_drop, aligned]
    omega
  simp only [note, follow, none, List.replicate_zero, List.append_nil] at member
  exact List.mem_of_mem_drop (List.mem_of_mem_take member)

/-- Such an operation keeps what is known, if it reads no line or one with the right origin. -/
theorem IsSolicited.note
    {traced : Traced Scripted}
    (solicited : traced.IsSolicited)
    {operation : Operation}
    {taken : Nat}
    {stream : Scripted}
    (fewer : (BufferedStream.lines stream).length ≤
      (BufferedStream.lines traced.stream).length - taken)
    (read : ∀ text origin, operation = .read (.line text) origin →
      origin ∈ traced.origins) :
    (traced.note operation taken stream).IsSolicited where
  aligned := length_follow _ _ _
  released origin member :=
    (solicited.released origin (mem_origins_of_note solicited.aligned fewer member)).append _
  answered text origin member := by
    rcases List.mem_append.mp member with old | new
    · exact (solicited.answered text origin old).append _
    · have same := (List.mem_singleton.mp new).symm
      exact (solicited.released origin (read text origin same)).append _

theorem IsSolicited.write
    {traced : Traced Scripted}
    (solicited : traced.IsSolicited)
    (octets : List UInt8) :
    (traced.write octets).stream.IsSolicited := by
  cases connected : traced.stream.connected with
  | false =>
    have same : (ByteStream.write octets traced.stream).stream = traced.stream := by
      show (traced.stream.write octets).stream = _
      simp [Scripted.write, connected]
    refine solicited.note ?_ (by simp)
    simp [same]
  | true =>
    have succeeds : (ByteStream.write octets traced.stream).outcome = .ok () := by
      show (traced.stream.write octets).outcome = _
      rw [Scripted.write]
      rw [if_pos connected]
      split <;> rfl
    refine ⟨length_follow _ _ _, ?_, ?_⟩
    · intro origin member
      rcases mem_origins_note member with old | new
      · exact (solicited.released origin old).append _
      · subst new
        refine ⟨octets, ?_⟩
        show (traced.operations ++ [_])[traced.operations.length]? = _
        rw [List.getElem?_concat_length, succeeds]
    · intro text origin member
      rcases List.mem_append.mp member with old | new
      · exact (solicited.answered text origin old).append _
      · simp at new

theorem IsSolicited.readLine
    {traced : Traced Scripted}
    (solicited : traced.IsSolicited) :
    traced.readLine.stream.IsSolicited := by
  have read : (ByteStream.readLine traced.stream).outcome.lines ++
      BufferedStream.lines (ByteStream.readLine traced.stream).stream =
        BufferedStream.lines traced.stream :=
    Scripted.lines_readLine_eq traced.stream
  have count := congrArg List.length read
  rw [List.length_append] at count
  apply solicited.note (by omega)
  intro text origin brought
  injection brought with outcome place
  rw [outcome] at count
  have aligned := solicited.aligned
  cases origins : traced.origins with
  | nil =>
    simp only [origins, ← count, ReadOutcome.lines, List.length_nil, List.length_singleton]
      at aligned
    omega
  | cons first rest => simp [← place, nextOrigin, origins]

theorem IsSolicited.discardInput
    {traced : Traced Scripted}
    (solicited : traced.IsSolicited) :
    traced.discardInput.2.IsSolicited := by
  refine solicited.note ?_ (by simp)
  show (Scripted.linesOf traced.stream.discardInput.2.readable).length ≤ _
  rw [Scripted.discardInput]
  split
  · exact Nat.le_refl _
  · split
    · exact Nat.le_refl _
    · exact Nat.zero_le _

theorem IsSolicited.idle
    {traced : Traced Scripted}
    (solicited : traced.IsSolicited) :
    (traced.idle id).IsSolicited :=
  solicited.note (Nat.le_refl _) (by simp)

theorem Traffic.isSolicited
    {first second : Traced Scripted}
    {operations : List Operation}
    (traffic : first.Traffic operations second)
    (solicited : first.IsSolicited) :
    second.IsSolicited := by
  induction traffic with
  | none => exact solicited
  | write octets _ induction => exact induction.write octets
  | read _ induction => exact induction.readLine

end RoverLink.Traced
