import RoverLink.Proofs.Session.Log

/-!
# When a session uses its stream

A moment is an access to the stream together with the clock before it and the
clock after it.  `journal` lists the moments of a call.  They are all that the
log of the stream gains, one begins no earlier than the one before it ended, and
none begins when a limit has been reached (`records_sendWithin`).
-/

namespace RoverLink

/-- An access to a stream, and the clocks between which it took place. -/
structure Moment where
  access : Access
  start : Clock
  finish : Clock

/-- Whether moments took place one after the other between two clocks. -/
inductive Timeline : Clock → List Moment → Clock → Prop where
  | nil {start finish : Clock}
      (precedes : start.Precedes finish) :
      Timeline start [] finish
  | cons {start finish : Clock} {moment : Moment} {moments : List Moment}
      (precedes : start.Precedes moment.start)
      (lasts : moment.start.Precedes moment.finish)
      (rest : Timeline moment.finish moments finish) :
      Timeline start (moment :: moments) finish

namespace Timeline

variable {start middle finish : Clock} {moments others : List Moment}

theorem of_precedes
    (precedes : start.Precedes middle)
    (timeline : Timeline middle moments finish) :
    Timeline start moments finish := by
  cases timeline with
  | nil ends => exact .nil (precedes.trans ends)
  | cons begins lasts rest => exact .cons (precedes.trans begins) lasts rest

theorem append
    (timeline : Timeline start moments middle)
    (further : Timeline middle others finish) :
    Timeline start (moments ++ others) finish := by
  induction timeline with
  | nil precedes => exact further.of_precedes precedes
  | cons precedes lasts _ induction => exact .cons precedes lasts (induction further)

/-- The moments behind some others took place after them. -/
theorem of_append (timeline : Timeline start (moments ++ others) finish) :
    ∃ middle, Timeline middle others finish := by
  induction moments generalizing start with
  | nil => exact ⟨start, timeline⟩
  | cons moment moments induction =>
    cases timeline with
    | cons _ _ rest => exact induction rest

theorem precedes (timeline : Timeline start moments finish) : start.Precedes finish := by
  induction timeline with
  | nil precedes => exact precedes
  | cons precedes lasts _ induction => exact precedes.trans (lasts.trans induction)

end Timeline

/-- Whether no access takes place after a limit has been reached. -/
structure Stops (limits : Limits) (moments : List Moment) : Prop where
  /-- No access begins at or after a point at which a limit is reached. -/
  reached : ∀ point, limits.IsReached point → ∀ moment ∈ moments, ¬ point.Precedes moment.start
  /-- An access during which a limit is reached is the last one. -/
  last : ∀ before moment behind, moments = before ++ moment :: behind →
    limits.IsReached moment.finish → behind = []

/-- What a log gains between two clocks, without an access after a limit has been reached. -/
structure Records
    {Stream : Type}
    (limits : Limits)
    (first : Logged Stream)
    (start : Clock)
    (moments : List Moment)
    (last : Logged Stream)
    (finish : Clock) :
    Prop where
  log : last.log = first.log ++ moments.map Moment.access
  timeline : Timeline start moments finish
  admitted : ∀ moment ∈ moments, ¬ limits.IsReached moment.start

namespace Records

variable {Stream : Type} {limits : Limits}
variable {first second third : Logged Stream} {start middle finish : Clock}
variable {moments others : List Moment}

theorem nil
    (limits : Limits)
    (logged : Logged Stream)
    (precedes : start.Precedes finish) :
    Records limits logged start [] logged finish where
  log := (List.append_nil _).symm
  timeline := .nil precedes
  admitted := by simp

theorem single
    {access : Access}
    (log : second.log = first.log ++ [access])
    (lasts : start.Precedes finish)
    (admitted : ¬ limits.IsReached start) :
    Records limits first start [⟨access, start, finish⟩] second finish where
  log := log
  timeline := .cons (.refl start) lasts (.nil (.refl finish))
  admitted := by simpa using admitted

theorem trans
    (left : Records limits first start moments second middle)
    (right : Records limits second middle others third finish) :
    Records limits first start (moments ++ others) third finish where
  log := by rw [right.log, left.log, List.map_append, List.append_assoc]
  timeline := left.timeline.append right.timeline
  admitted := List.forall_mem_append.mpr ⟨left.admitted, right.admitted⟩

/-- Once a limit has been reached, nothing is asked of the stream any more. -/
theorem stops (records : Records limits first start moments second finish) :
    Stops limits moments where
  reached point reached moment member precedes :=
    records.admitted moment member (reached.mono precedes)
  last := by
    rintro before moment behind rfl reached
    cases behind with
    | nil => rfl
    | cons next rest =>
      have follows : moment.finish.Precedes next.start := by
        rcases records.timeline.of_append with ⟨_, behind⟩
        cases behind with
        | cons _ _ behind =>
          cases behind with
          | cons precedes _ _ => exact precedes
      exact (records.admitted next (by simp) (reached.mono follows)).elim

end Records

namespace Session

variable {Stream : Type} [ByteStream Stream]

/-! ### Waiting for a reply -/

instance (waiting : Waiting) (clock : Clock) : Decidable (waiting.IsOpen clock) :=
  inferInstanceAs (Decidable (_ ∧ _))

theorem Waiting.IsOpen.not_isReached
    {waiting : Waiting}
    {clock : Clock}
    (isOpen : waiting.IsOpen clock) :
    ¬ waiting.limits.IsReached clock :=
  Limits.exceeded?_eq_none_iff.mp isOpen.1

theorem Waiting.precedes_clockAfterRead
    (waiting : Waiting)
    (stream : Stream)
    (clock : Clock) :
    clock.Precedes (waiting.clockAfterRead stream clock) :=
  Response.precedes_clockAfter _ _ _ clock

theorem Waiting.precedes_expiry (waiting : Waiting) (clock : Clock) :
    clock.Precedes (waiting.expiry clock) :=
  clock.precedes_advanceTo _

/-- The moment of a read that ends at a clock. -/
def readMoment (stream : Stream) (start finish : Clock) : Moment :=
  ⟨.read (ByteStream.readLine stream).outcome, start, finish⟩

/-- The reads of one wait, the first one first. -/
def reads (waiting : Waiting) (stream : Stream) (clock : Clock) : List Moment :=
  if waiting.IsOpen clock then
    let read := (ByteStream.readLine stream).stream
    let after := waiting.clockAfterRead stream clock
    if _quiet : (ByteStream.readLine stream).outcome = .quiet then
      [readMoment stream clock (waiting.expiry after)]
    else
      match _passed : waiting.endedBy? (ByteStream.readLine stream).outcome with
      | some _ => [readMoment stream clock after]
      | none => readMoment stream clock after :: reads waiting read after
  else
    []
termination_by ByteStream.supply stream
decreasing_by
  exact ByteStream.supply_readLine_lt stream
    (waiting.isRetried_of_endedBy?_eq_none _quiet _passed)

theorem records_readLine
    {waiting : Waiting}
    {clock : Clock}
    (isOpen : waiting.IsOpen clock)
    (logged : Logged Stream)
    {finish : Clock}
    (lasts : clock.Precedes finish) :
    Records waiting.limits logged clock [readMoment logged clock finish]
      (ByteStream.readLine logged).stream finish :=
  .single logged.log_readLine lasts isOpen.not_isReached

/-- Waiting reads as often as it finds neither a limit reached nor the time over. -/
theorem records_awaitReply
    (waiting : Waiting)
    (logged : Logged Stream)
    (clock : Clock) :
    Records waiting.limits logged clock (reads waiting logged clock)
      (awaitReply waiting logged clock).stream (awaitReply waiting logged clock).clock := by
  fun_induction reads waiting logged clock with
  | case1 logged clock isOpen after quiet =>
    rw [awaitReply_of_isOpen isOpen]
    simp only [quiet, if_true]
    exact records_readLine isOpen logged
      ((waiting.precedes_clockAfterRead logged clock).trans (waiting.precedes_expiry _))
  | case2 logged clock isOpen after loud awaited ended =>
    rw [awaitReply_of_isOpen isOpen]
    simp only [loud, if_false, ended]
    exact records_readLine isOpen logged (waiting.precedes_clockAfterRead logged clock)
  | case3 logged clock isOpen read after loud passed induction =>
    rw [awaitReply_of_isOpen isOpen]
    simp only [loud, if_false, passed]
    exact (records_readLine isOpen logged
      (waiting.precedes_clockAfterRead logged clock)).trans induction
  | case4 logged clock closed =>
    rw [awaitReply_of_not_isOpen closed]
    exact .nil _ _ (.refl _)

/-! ### One attempt -/

/-- The moments of an attempt: the write, and the reads if the write succeeds. -/
def exchangeMoments
    (session : Session Stream)
    (frame : List Char)
    (limits : Limits)
    (started : Nat)
    (clock : Clock) :
    List Moment :=
  let octets := Text.Utf8.encode frame
  let response := ByteStream.write octets session.stream
  let after := response.clockAfter none limits.deadline clock
  ⟨.write octets response.outcome, clock, after⟩ ::
    match response.outcome with
    | .error _ => []
    | .ok () => reads (session.waitingFor limits started after.now) response.stream after

theorem records_write
    (octets : List UInt8)
    (logged : Logged Stream)
    {limits : Limits}
    {clock : Clock}
    (admitted : ¬ limits.IsReached clock) :
    Records limits logged clock
      [⟨.write octets (ByteStream.write octets logged).outcome, clock,
        (ByteStream.write octets logged).clockAfter none limits.deadline clock⟩]
      (ByteStream.write octets logged).stream
      ((ByteStream.write octets logged).clockAfter none limits.deadline clock) :=
  .single rfl (Response.precedes_clockAfter _ _ _ clock) admitted

theorem records_exchange
    (session : Session (Logged Stream))
    (frame : List Char)
    {limits : Limits}
    (started : Nat)
    {clock : Clock}
    (admitted : ¬ limits.IsReached clock) :
    Records limits session.stream clock
      (session.exchangeMoments frame limits started clock)
      (session.exchange frame limits started clock).stream
      (session.exchange frame limits started clock).clock := by
  have written := records_write (Text.Utf8.encode frame) session.stream admitted
  simp only [exchangeMoments, exchange]
  cases outcome : (ByteStream.write (Text.Utf8.encode frame) session.stream).outcome with
  | error error =>
    rw [outcome] at written
    exact written
  | ok =>
    rw [outcome] at written
    exact written.trans (records_awaitReply (session.waitingFor limits started _) _ _)

/-! ### All attempts -/

theorem precedes_pause
    {policy : RetryPolicy}
    {limits : Limits}
    {attempts : Nat}
    {clock later : Clock}
    (paused : pause policy limits attempts clock = some later) :
    clock.Precedes later := by
  simp only [pause] at paused
  split at paused
  · cases paused
    exact .refl clock
  · exact Limits.precedes_sleep paused

theorem precedes_resumption
    (frame : List Char)
    (limits : Limits)
    (started : Nat)
    (policy : RetryPolicy)
    (done : Nat)
    (clock : Clock) :
    clock.Precedes (resumption frame limits started policy done clock).2 := by
  have ways := resumption_cases frame limits started policy done clock
  generalize resumption frame limits started policy done clock = outcome at ways
  cases ways with
  | exhausted _ => exact .refl clock
  | unnamed _ _ => exact .refl clock
  | limited _ paused _ => exact precedes_pause paused
  | resumed _ paused _ => exact precedes_pause paused

/-- A request goes on only while no limit is reached. -/
theorem not_isReached_of_resumption_eq_ok
    {frame : List Char}
    {limits : Limits}
    {started : Nat}
    {policy : RetryPolicy}
    {done : Nat}
    {clock : Clock}
    (resumed : (resumption frame limits started policy done clock).1 = .ok ()) :
    ¬ limits.IsReached (resumption frame limits started policy done clock).2 := by
  have ways := resumption_cases frame limits started policy done clock
  generalize resumption frame limits started policy done clock = outcome at resumed ways
  cases ways with
  | resumed _ _ unreached => exact unreached
  | exhausted _ => simp at resumed
  | unnamed _ _ => simp at resumed
  | limited _ _ _ => simp at resumed

/-- The moments of all attempts of a request. -/
def moments
    (frame : List Char)
    (limits : Limits)
    (started : Nat)
    (policy : RetryPolicy)
    (done : Nat)
    (session : Session Stream)
    (clock : Clock) :
    List Moment :=
  let exchanged := session.exchange frame limits started clock
  let resumed := resumption frame limits started policy (done + 1) exchanged.clock
  match exchanged.ending.result?, _continued : resumed.1 with
  | none, .ok () =>
    session.exchangeMoments frame limits started clock ++
      moments frame limits started policy (done + 1) (session.conclude exchanged) resumed.2
  | _, _ => session.exchangeMoments frame limits started clock
termination_by policy.maxAttempts - done
decreasing_by
  have := canRetry_of_resumption_eq_ok _continued
  omega

theorem records_sendFrame
    (frame : List Char)
    (limits : Limits)
    (started : Nat)
    (policy : RetryPolicy)
    (done : Nat)
    (session : Session (Logged Stream))
    (clock : Clock)
    (admitted : ¬ limits.IsReached clock) :
    Records limits session.stream clock
      (moments frame limits started policy done session clock)
      (sendFrame frame limits started policy done session clock).state.stream
      (sendFrame frame limits started policy done session clock).clock := by
  fun_induction moments frame limits started policy done session clock with
  | case1 done session clock exchanged continuation continued unsettled induction =>
    have attempted := records_exchange session frame started admitted
    rw [sendFrame_eq]
    simp only [exchanged, continuation] at unsettled continued induction ⊢
    simp only [unsettled, continued]
    have waited := precedes_resumption frame limits started policy (done + 1)
      (session.exchange frame limits started clock).clock
    exact attempted.trans ((Records.nil limits _ waited).trans
      (induction (not_isReached_of_resumption_eq_ok continued)))
  | case2 done session clock exchanged continuation final =>
    have attempted := records_exchange session frame started admitted
    rw [sendFrame_eq]
    simp only [exchanged, continuation] at final ⊢
    cases outcome : (session.exchange frame limits started clock).ending.result? with
    | some result => exact attempted
    | none =>
      have waited := precedes_resumption frame limits started policy (done + 1)
        (session.exchange frame limits started clock).clock
      cases next : (resumption frame limits started policy (done + 1)
          (session.exchange frame limits started clock).clock).1 with
      | ok => exact (final outcome next).elim
      | error error =>
        have stopped := attempted.trans (Records.nil limits _ waited)
        rwa [List.append_nil] at stopped

/-! ### A whole call -/

/-- The moment at which stale input is dropped. -/
def discards (session : Session Stream) (clock : Clock) : List Moment :=
  if session.staleInput then
    [⟨.discard (ByteStream.discardInput session.stream).1, clock, clock⟩]
  else
    []

/-- All moments of a call. -/
def journal
    (session : Session Stream)
    (command : Command)
    (limits : Limits)
    (clock : Clock) :
    List Moment :=
  match limits.exceeded? clock.now clock with
  | some _ => []
  | none =>
    let dropped := (session.numbered command).dropStale
    session.discards clock ++
      match dropped.1 with
      | .error _ => []
      | .ok () =>
        moments (session.codec.encode command).1 limits clock.now session.config.retry 0
          dropped.2 clock

theorem records_dropStale
    (session : Session (Logged Stream))
    (command : Command)
    {limits : Limits}
    {clock : Clock}
    (admitted : ¬ limits.IsReached clock) :
    Records limits session.stream clock (session.discards clock)
      (session.numbered command).dropStale.2.stream clock := by
  have dropped : Records limits session.stream clock
      [⟨.discard (ByteStream.discardInput session.stream).1, clock, clock⟩]
      (ByteStream.discardInput session.stream).2 clock :=
    .single rfl (.refl clock) admitted
  rw [discards, dropStale]
  by_cases stale : session.staleInput = true
  · simp only [numbered, stale, if_true]
    split <;> exact dropped
  · simp only [numbered, stale]
    exact .nil limits _ (.refl clock)

/-- The journal of a call is all that it asks of its stream, and it stops at the first limit. -/
theorem records_sendWithin
    (session : Session (Logged Stream))
    (command : Command)
    (limits : Limits)
    (clock : Clock) :
    Records limits session.stream clock (session.journal command limits clock)
      (session.sendWithin command limits clock).state.stream
      (session.sendWithin command limits clock).clock := by
  cases exceeded : limits.exceeded? clock.now clock with
  | some error =>
    rw [(sendWithin_of_refused session command exceeded).1, journal, exceeded]
    exact .nil limits _ (.refl clock)
  | none =>
    have admitted := Limits.exceeded?_eq_none_iff.mp exceeded
    have dropped := records_dropStale session command admitted
    cases outcome : (session.numbered command).dropStale.1 with
    | error error =>
      rw [(sendWithin_of_undropped session command exceeded outcome).1, journal, exceeded]
      simp only [outcome, List.append_nil]
      exact dropped
    | ok =>
      rw [(sendWithin_of_dropped session command exceeded outcome).1, journal, exceeded]
      simp only [outcome]
      exact dropped.trans (records_sendFrame _ _ _ _ _ _ _ admitted)

/-- A call begins with dropping the input if it is stale and no limit is reached. -/
theorem journal_of_staleInput
    {session : Session Stream}
    (stale : session.staleInput = true)
    (command : Command)
    {limits : Limits}
    {clock : Clock}
    (admitted : ¬ limits.IsReached clock) :
    ∃ rest, session.journal command limits clock =
      ⟨.discard (ByteStream.discardInput session.stream).1, clock, clock⟩ :: rest := by
  rw [journal, Limits.exceeded?_eq_none_iff.mpr admitted]
  simp only [discards, stale, if_true]
  exact ⟨_, rfl⟩

end Session

end RoverLink
