import RoverLink.Session

/-!
# Waiting for a reply, one read at a time

`awaitReply` looks at the limits, reads, and either ends with what was read or
waits on.  Whether it ends depends on the outcome of the read alone, and
`Waiting.endedBy?` says how.  The equation `awaitReply_eq` and the induction
principle `awaitReply_induction` state the loop with this function, so that a
proof about waiting has four cases: the wait is over before a read, the stream
is quiet, a read ends the wait, and a read is passed over.
-/

namespace RoverLink.Session

variable {Stream : Type} [ByteStream Stream]

/-- How waiting ends with what a read brought, if it does not go on. -/
def Waiting.endedBy? (waiting : Waiting) : ReadOutcome → Option Awaited
  | .line text =>
    match waiting.codec.judge (Text.trim text) with
    | .skipped => none
    | .answer reply => some (.reply reply)
    | .corrupted => some .abandoned
    | .undecodable error => some (.failed (error.toError (Text.trim text)))
  | .nothing => none
  | .quiet => none
  | .failed error =>
    if error.isReadTimeout then none else some (.failed (.linkLost error.message))

/-- The clock after one read. -/
def Waiting.clockAfterRead (waiting : Waiting) (stream : Stream) (clock : Clock) : Clock :=
  (ByteStream.readLine stream).clockAfter
    (some waiting.replyEnd) waiting.limits.deadline clock

/-- A read that ends no wait is passed over, unless the stream is quiet. -/
theorem Waiting.isRetried_of_endedBy?_eq_none
    (waiting : Waiting)
    {outcome : ReadOutcome}
    (loud : outcome ≠ .quiet)
    (passed : waiting.endedBy? outcome = none) :
    outcome.isRetried = true := by
  cases outcome with
  | line text => rfl
  | nothing => rfl
  | quiet => exact (loud rfl).elim
  | failed error => simpa [endedBy?, ReadOutcome.isRetried] using passed

theorem Waiting.expired_ne_reply
    (waiting : Waiting)
    (clock : Clock)
    (reply : Reply) :
    waiting.expired clock ≠ .reply reply := by
  rw [expired]
  split <;> simp

theorem Waiting.line_of_endedBy?_eq_reply
    {waiting : Waiting}
    {outcome : ReadOutcome}
    {reply : Reply}
    (ended : waiting.endedBy? outcome = some (.reply reply)) :
    ∃ text, outcome = .line text ∧ waiting.codec.judge (Text.trim text) = .answer reply := by
  cases outcome with
  | line text =>
    refine ⟨text, rfl, ?_⟩
    cases judged : waiting.codec.judge (Text.trim text) <;>
      simp_all [endedBy?]
  | nothing => simp [endedBy?] at ended
  | quiet => simp [endedBy?] at ended
  | failed error =>
    simp only [endedBy?] at ended
    split at ended <;> simp at ended

/-- The loop of `awaitReply`, with one case for each way in which it goes on or ends. -/
theorem awaitReply_eq
    (waiting : Waiting)
    (stream : Stream)
    (clock : Clock) :
    awaitReply waiting stream clock =
      match waiting.limits.exceeded? waiting.started clock with
      | some error => ⟨.interrupted error, stream, clock⟩
      | none =>
        if waiting.replyEnd < clock.now then
          ⟨.abandoned, stream, clock⟩
        else
          let read := (ByteStream.readLine stream).stream
          let after := waiting.clockAfterRead stream clock
          if (ByteStream.readLine stream).outcome = .quiet then
            ⟨waiting.expired (waiting.expiry after), read, waiting.expiry after⟩
          else
            match waiting.endedBy? (ByteStream.readLine stream).outcome with
            | some awaited => ⟨awaited, read, after⟩
            | none => awaitReply waiting read after := by
  rw [awaitReply]
  cases exceeded : waiting.limits.exceeded? waiting.started clock with
  | some error => rfl
  | none =>
    dsimp only
    split
    · rfl
    · split
      next text outcome =>
        cases judged : waiting.codec.judge (Text.trim text) <;>
          simp [outcome, judged, Waiting.endedBy?, Waiting.clockAfterRead]
      next outcome => simp [outcome, Waiting.endedBy?, Waiting.clockAfterRead]
      next outcome => simp [outcome, Waiting.clockAfterRead]
      next error outcome =>
        by_cases retried : error.isReadTimeout = true <;>
          simp [outcome, retried, Waiting.endedBy?, Waiting.clockAfterRead]

/-- Whether a wait looks at the stream: no limit is reached, and the time is not over. -/
def Waiting.IsOpen (waiting : Waiting) (clock : Clock) : Prop :=
  waiting.limits.exceeded? waiting.started clock = none ∧ clock.now ≤ waiting.replyEnd

/-- One round of the loop, while the wait looks at the stream. -/
theorem awaitReply_of_isOpen
    {waiting : Waiting}
    {clock : Clock}
    (isOpen : waiting.IsOpen clock)
    (stream : Stream) :
    awaitReply waiting stream clock =
      let read := (ByteStream.readLine stream).stream
      let after := waiting.clockAfterRead stream clock
      if (ByteStream.readLine stream).outcome = .quiet then
        ⟨waiting.expired (waiting.expiry after), read, waiting.expiry after⟩
      else
        match waiting.endedBy? (ByteStream.readLine stream).outcome with
        | some awaited => ⟨awaited, read, after⟩
        | none => awaitReply waiting read after := by
  rw [awaitReply_eq]
  simp only [isOpen.1]
  rw [if_neg (Nat.not_lt.mpr isOpen.2)]

/-- A wait that does not look at the stream leaves it as it is. -/
theorem awaitReply_of_not_isOpen
    {waiting : Waiting}
    {clock : Clock}
    (closed : ¬ waiting.IsOpen clock)
    (stream : Stream) :
    awaitReply waiting stream clock = ⟨waiting.expired clock, stream, clock⟩ := by
  rw [awaitReply_eq]
  rw [Waiting.expired]
  cases exceeded : waiting.limits.exceeded? waiting.started clock with
  | some error => rfl
  | none =>
    have late : waiting.replyEnd < clock.now :=
      Nat.lt_of_not_le fun inTime => closed ⟨exceeded, inTime⟩
    simp [late]

/-- Induction over the reads of one wait. -/
@[elab_as_elim]
theorem awaitReply_induction
    (waiting : Waiting)
    {motive : Stream → Clock → Waited Stream → Prop}
    (closed : ∀ stream clock,
      ¬ waiting.IsOpen clock →
        motive stream clock ⟨waiting.expired clock, stream, clock⟩)
    (quiet : ∀ stream clock,
      waiting.IsOpen clock →
        (ByteStream.readLine stream).outcome = .quiet →
          motive stream clock
            ⟨waiting.expired (waiting.expiry (waiting.clockAfterRead stream clock)),
              (ByteStream.readLine stream).stream,
              waiting.expiry (waiting.clockAfterRead stream clock)⟩)
    (ended : ∀ stream clock awaited,
      waiting.IsOpen clock →
        (ByteStream.readLine stream).outcome ≠ .quiet →
          waiting.endedBy? (ByteStream.readLine stream).outcome = some awaited →
            motive stream clock
              ⟨awaited, (ByteStream.readLine stream).stream,
                waiting.clockAfterRead stream clock⟩)
    (passed : ∀ stream clock waited,
      waiting.IsOpen clock →
        (ByteStream.readLine stream).outcome ≠ .quiet →
          waiting.endedBy? (ByteStream.readLine stream).outcome = none →
            motive (ByteStream.readLine stream).stream (waiting.clockAfterRead stream clock)
                waited →
              motive stream clock waited)
    (stream : Stream)
    (clock : Clock) :
    motive stream clock (awaitReply waiting stream clock) := by
  -- The supply of the stream bounds the number of reads.
  induction size : ByteStream.supply stream using Nat.strongRecOn generalizing stream clock with
  | ind size induction =>
    by_cases isOpen : waiting.IsOpen clock
    · rw [awaitReply_of_isOpen isOpen]
      dsimp only
      split
      next silent => exact quiet stream clock isOpen silent
      next loud =>
        split
        next awaited found => exact ended stream clock awaited isOpen loud found
        next missing =>
          have less := ByteStream.supply_readLine_lt stream
            (waiting.isRetried_of_endedBy?_eq_none loud missing)
          exact passed stream clock _ isOpen loud missing
            (induction _ (size ▸ less) _ _ rfl)
    · rw [awaitReply_of_not_isOpen isOpen]
      exact closed stream clock isOpen

end RoverLink.Session
