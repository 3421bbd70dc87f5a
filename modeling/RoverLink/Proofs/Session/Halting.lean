import RoverLink.Proofs.Session.Conclusion
import RoverLink.Proofs.Session.Delivery
import RoverLink.Proofs.Session.Journal

/-!
# How a call ends at a limit

A limit is looked at before each write, before each read, and after each pause.
A call in which a limit is reached still returns what its last attempt brought,
if that settles the request or uses up the last attempt that is allowed.
Otherwise it returns the error of the limit (`Halted`, `heedsLimits`).
-/

namespace RoverLink

/-- Whether an error tells that a limit was reached. -/
def Error.isLimit (error : Error) : Bool :=
  error.isTimeout || error.isCancelled

/-- Whether an error tells what the link or the device did. -/
def Error.isVerdict (error : Error) : Bool :=
  error.isReception || error.deviceCode.isSome

theorem Error.isVerdict_of_isReception
    {error : Error}
    (reception : error.isReception = true) :
    error.isVerdict = true :=
  Bool.or_eq_true_iff.mpr (.inl reception)

theorem Error.isLimit_eq_false_of_isVerdict
    {error : Error}
    (verdict : error.isVerdict = true) :
    error.isLimit = false := by
  cases error <;>
    simp_all [isVerdict, isReception, deviceCode, isLimit, isTimeout, isCancelled]

/-! ### What an attempt settles by itself -/

/-- The result of the request, if what the attempt brought settles it. -/
def Ending.verdict? (ending : Ending) : Option (Except Error Reply) :=
  match ending with
  | .awaited (.interrupted _) => none
  | other => other.result?

theorem Ending.result?_of_verdict?_eq_some
    {ending : Ending}
    {result : Except Error Reply}
    (verdict : ending.verdict? = some result) :
    ending.result? = some result := by
  unfold Ending.verdict? at verdict
  split at verdict
  · simp at verdict
  · exact verdict

/-- An attempt that settles a request brought this about itself, or was interrupted. -/
theorem Ending.verdict_or_interrupted
    {ending : Ending}
    {result : Except Error Reply}
    (settled : ending.result? = some result) :
    ending.verdict? = some result ∨
      ∃ error, ending = .awaited (.interrupted error) ∧ result = .error error := by
  unfold Ending.verdict?
  split
  next error =>
    cases settled
    exact .inr ⟨error, rfl, rfl⟩
  next => exact .inl settled

namespace Session

variable {Stream : Type}

/--
Whether the next call drops the input before it does anything else, unless its
limits refuse it.
-/
def DropsNext [ByteStream Stream] (session : Session (Logged Stream)) : Prop :=
  ∀ next : Sending Stream, ¬ next.limits.IsReached next.clock →
    ∃ outcome rest, (session.ready next).journal next.command next.limits next.clock =
      ⟨.discard outcome, next.clock, next.clock⟩ :: rest

theorem DropsNext.of_staleInput
    [ByteStream Stream]
    {session : Session (Logged Stream)}
    (stale : session.staleInput = true) :
    session.DropsNext := by
  intro next admitted
  have stays : (session.ready next).staleInput = true := stale
  exact ⟨_, journal_of_staleInput stays next.command admitted⟩

variable [ByteStream Stream]

theorem excess_of_interrupted
    {session : Session Stream}
    {frame : List Char}
    {limits : Limits}
    {started : Nat}
    {clock : Clock}
    {error : Error}
    (interrupted : (session.exchange frame limits started clock).ending =
      .awaited (.interrupted error)) :
    limits.Excess started (session.exchange frame limits started clock).clock error := by
  simp only [exchange] at interrupted ⊢
  split at interrupted
  · simp at interrupted
  · exact (explains_awaitReply _ _ _).interrupted error (Ending.awaited.inj interrupted)

theorem isVerdict_of_verdict?
    {session : Session Stream}
    {frame : List Char}
    {limits : Limits}
    {started : Nat}
    {clock : Clock}
    {error : Error}
    (verdict : (session.exchange frame limits started clock).ending.verdict? =
      some (.error error)) :
    error.isVerdict = true := by
  have failed : ∀ other,
      (session.exchange frame limits started clock).ending = .awaited (.failed other) →
        other.isReception = true := by
    intro other ended
    simp only [exchange] at ended
    split at ended
    · simp at ended
    · exact (explains_awaitReply _ _ _).failed other (Ending.awaited.inj ended)
  generalize (session.exchange frame limits started clock).ending = ending at verdict failed
  rcases ending with lost | awaited
  · cases verdict
    rfl
  · cases awaited with
    | reply reply =>
      simp only [Ending.verdict?, Ending.result?] at verdict
      split at verdict
      · simp at verdict
      · cases verdict
        rfl
      · simp at verdict
    | abandoned => simp [Ending.verdict?, Ending.result?] at verdict
    | interrupted other => simp [Ending.verdict?] at verdict
    | failed other =>
      cases verdict
      exact Error.isVerdict_of_isReception (failed error rfl)

/-! ### How a call ends -/

/-- How a call ends at a clock after its last attempt, of which it made a number. -/
inductive Halted
    (frame : List Char)
    (policy : RetryPolicy)
    (limits : Limits)
    (started : Nat)
    (finish : Clock)
    (last : Ending)
    (count : Nat) :
    Except Error Reply → Prop where
  /-- What the last attempt brought settles the request. -/
  | settled {result : Except Error Reply}
      (verdict : last.verdict? = some result) :
      Halted frame policy limits started finish last count result
  /-- The last attempt was transient, and no other one is allowed. -/
  | exhausted
      (unsettled : last.result? = none)
      (spent : policy.maxAttempts ≤ count) :
      Halted frame policy limits started finish last count
        (.error (.retriesExhausted (requestText frame) count))
  /-- Otherwise the limit that has been reached ends the call. -/
  | limited {error : Error}
      (unsettled : last.verdict? = none)
      (left : last.result? = none → count < policy.maxAttempts)
      (excess : limits.Excess started finish error) :
      Halted frame policy limits started finish last count (.error error)
  /-- The end of the pause is beyond the range of instants. -/
  | unnamed
      (unsettled : last.result? = none)
      (left : count < policy.maxAttempts)
      (beyond : limits.IsReached finish → Clock.range ≤ finish.now) :
      Halted frame policy limits started finish last count (.error .clockOverflow)

/-- When a limit has been reached, a pause is over at once. -/
theorem range_le_of_pause_eq_none
    {policy : RetryPolicy}
    {limits : Limits}
    {attempts : Nat}
    {clock : Clock}
    (endless : pause policy limits attempts clock = none)
    (reached : limits.IsReached clock) :
    Clock.range ≤ clock.now := by
  simp only [pause] at endless
  split at endless
  · simp at endless
  rw [Limits.sleep, Clock.sleep] at endless
  rcases reached with ⟨heeds, cancelled⟩ | ⟨deadline, set, passed⟩
  · simp [heeds, cancelled] at endless
  · -- Nothing is left to be slept until the deadline.
    simp only [set, Nat.sub_eq_zero_of_le passed, Nat.min_zero, Nat.add_zero] at endless
    split at endless
    · split at endless
      · simp at endless
      · split at endless
        · simp at endless
        next beyond => exact Nat.le_of_not_lt beyond
    · simp at endless

theorem halted_of_stopped
    {frame : List Char}
    {policy : RetryPolicy}
    {limits : Limits}
    {started done : Nat}
    {clock later : Clock}
    {last : Ending}
    {error : Error}
    (unsettled : last.result? = none)
    (stopped : resumption frame limits started policy done clock = (.error error, later)) :
    Halted frame policy limits started later last done (.error error) := by
  have unsettled' : last.verdict? = none := by
    cases verdict : last.verdict? with
    | none => rfl
    | some result => simp [Ending.result?_of_verdict?_eq_some verdict] at unsettled
  have ways := resumption_cases frame limits started policy done clock
  rw [stopped] at ways
  cases ways with
  | exhausted spent => exact .exhausted unsettled spent
  | unnamed left endless =>
    exact .unnamed unsettled left (range_le_of_pause_eq_none endless)
  | limited left _ excess => exact .limited unsettled' (fun _ => left) excess

theorem halted_sendFrame
    (frame : List Char)
    (limits : Limits)
    (started : Nat)
    (policy : RetryPolicy)
    (done : Nat)
    (session : Session Stream)
    (clock : Clock) :
    ∃ last,
      (endings frame limits started policy done session clock).getLast? = some last ∧
        (∀ error, last.verdict? = some (.error error) → error.isVerdict = true) ∧
          Halted frame policy limits started
            (sendFrame frame limits started policy done session clock).clock last
            ((endings frame limits started policy done session clock).length + done)
            (sendFrame frame limits started policy done session clock).result := by
  refine sendFrame_induction frame limits started policy
    (motive := fun done _ _ step ended =>
      ∃ last, ended.getLast? = some last ∧
        (∀ error, last.verdict? = some (.error error) → error.isVerdict = true) ∧
          Halted frame policy limits started step.clock last (ended.length + done) step.result)
    ?settled ?stopped ?resumed done session clock
  case settled =>
    intro done session clock result settled
    refine ⟨_, rfl, fun _ => isVerdict_of_verdict?, ?_⟩
    rcases Ending.verdict_or_interrupted settled with verdict | ⟨error, interrupted, rfl⟩
    · exact .settled verdict
    · refine .limited ?_ (by simp [settled]) (excess_of_interrupted interrupted)
      rw [interrupted]
      rfl
  case stopped =>
    intro done session clock error later unsettled stopped
    refine ⟨_, rfl, fun _ => isVerdict_of_verdict?, ?_⟩
    rw [List.length_singleton, Nat.add_comm]
    exact halted_of_stopped unsettled stopped
  case resumed =>
    intro done session clock later step rest _ _ induction
    rcases induction with ⟨last, final, verdicts, halted⟩
    refine ⟨last, by simp [List.getLast?_cons, final], verdicts, ?_⟩
    rw [List.length_cons, Nat.add_right_comm]
    exact halted

/-- A call that ends at another clock than it began has made an attempt. -/
theorem halted_sendWithin
    (session : Session Stream)
    (command : Command)
    (limits : Limits)
    (clock : Clock)
    (admitted : ¬ limits.IsReached clock)
    (reached : limits.IsReached (session.sendWithin command limits clock).clock) :
    ∃ last, (session.attempts command limits clock).getLast? = some last ∧
      Halted (session.codec.encode command).1 session.config.retry limits clock.now
        (session.sendWithin command limits clock).clock last
        (session.attempts command limits clock).length
        (session.sendWithin command limits clock).result := by
  revert reached
  refine sendWithin_cases session command limits clock
    (motive := fun step attempts => limits.IsReached step.clock →
      ∃ last, attempts.getLast? = some last ∧
        Halted (session.codec.encode command).1 session.config.retry limits clock.now
          step.clock last attempts.length step.result)
    ?refused ?undropped ?dropped
  case refused =>
    intro error _ reached
    exact (admitted reached).elim
  case undropped =>
    intro error _ _ reached
    exact (admitted reached).elim
  case dropped =>
    intro _ _ _
    rcases halted_sendFrame (session.codec.encode command).1 limits clock.now
      session.config.retry 0 (session.numbered command).dropStale.2 clock with
        ⟨last, final, _, halted⟩
    exact ⟨last, final, halted⟩

theorem staleInput_sendWithin_of_isAbandoned
    {session : Session Stream}
    {command : Command}
    {limits : Limits}
    {clock : Clock}
    (abandoned : (session.attempts command limits clock).any Ending.isAbandoned = true) :
    (session.sendWithin command limits clock).state.staleInput = true := by
  revert abandoned
  refine sendWithin_cases session command limits clock
    (motive := fun step attempts =>
      attempts.any Ending.isAbandoned = true → step.state.staleInput = true)
    ?refused ?undropped ?dropped
  case refused => simp
  case undropped => simp
  case dropped =>
    intro _ _ abandoned
    rw [staleInput_sendFrame, abandoned, Bool.or_true]

/-- How a call that is to end at its limits uses its stream, and how it ends. -/
structure HeedsLimits
    (session : Session (Logged Stream))
    (command : Command)
    (limits : Limits)
    (clock : Clock) :
    Prop where
  /-- The journal of the call is all that it asks of its stream. -/
  records :
    Records limits session.stream clock (session.journal command limits clock)
      (session.sendWithin command limits clock).state.stream
      (session.sendWithin command limits clock).clock
  stops : Stops limits (session.journal command limits clock)
  /-- If a limit is reached before the call, it returns the error and does nothing. -/
  refused : limits.IsReached clock →
    session.journal command limits clock = [] ∧
      ∃ error, limits.Excess clock.now clock error ∧
        session.sendWithin command limits clock = ⟨.error error, session.numbered command, clock⟩
  /-- If a limit is reached later, the last attempt says how the call ends. -/
  halted : ¬ limits.IsReached clock →
    limits.IsReached (session.sendWithin command limits clock).clock →
      ∃ last, (session.attempts command limits clock).getLast? = some last ∧
        Halted (session.codec.encode command).1 session.config.retry limits clock.now
          (session.sendWithin command limits clock).clock last
          (session.attempts command limits clock).length
          (session.sendWithin command limits clock).result
  /-- The next call drops the input if waiting for a reply was given up. -/
  drops : (session.attempts command limits clock).any Ending.isAbandoned = true →
    (session.sendWithin command limits clock).state.DropsNext

theorem heedsLimits
    (session : Session (Logged Stream))
    (command : Command)
    (limits : Limits)
    (clock : Clock) :
    session.HeedsLimits command limits clock where
  records := session.records_sendWithin command limits clock
  stops := (session.records_sendWithin command limits clock).stops
  refused reached := by
    cases exceeded : limits.exceeded? clock.now clock with
    | none => exact (Limits.exceeded?_eq_none_iff.mp exceeded reached).elim
    | some error =>
      refine ⟨by rw [journal, exceeded], error, Limits.exceeded?_eq_some_iff.mp exceeded, ?_⟩
      exact (sendWithin_of_refused session command exceeded).1
  halted := halted_sendWithin session command limits clock
  drops abandoned :=
    .of_staleInput (staleInput_sendWithin_of_isAbandoned abandoned)

/-- What the error of a call says about the limits. -/
structure Blames (limits : Limits) (started : Nat) (finish : Clock) (error : Error) : Prop where
  limit : error.isLimit = true → limits.Excess started finish error
  unnamed : error = .clockOverflow → limits.IsReached finish → Clock.range ≤ finish.now

theorem Blames.of_isVerdict
    {limits : Limits}
    {started : Nat}
    {finish : Clock}
    {error : Error}
    (verdict : error.isVerdict = true) :
    Blames limits started finish error where
  limit isLimit := by simp [Error.isLimit_eq_false_of_isVerdict verdict] at isLimit
  unnamed same := by simp [same, Error.isVerdict, Error.isReception, Error.deviceCode] at verdict

theorem Blames.of_excess
    {limits : Limits}
    {started : Nat}
    {finish : Clock}
    {error : Error}
    (excess : limits.Excess started finish error) :
    Blames limits started finish error where
  limit _ := excess
  unnamed same := by
    cases excess <;> cases same

theorem blames_sendWithin
    {session : Session Stream}
    {command : Command}
    {limits : Limits}
    {clock : Clock}
    {error : Error}
    (failed : (session.sendWithin command limits clock).result = .error error) :
    Blames limits clock.now (session.sendWithin command limits clock).clock error := by
  revert failed
  refine sendWithin_cases session command limits clock
    (motive := fun step _ => step.result = .error error →
      Blames limits clock.now step.clock error)
    ?refused ?undropped ?dropped
  case refused =>
    intro reason refused same
    cases same
    exact .of_excess (Limits.exceeded?_eq_some_iff.mp refused)
  case undropped =>
    intro reason _ undropped same
    cases same
    exact .of_isVerdict (Error.isVerdict_of_isReception (isReception_dropStale undropped))
  case dropped =>
    intro _ _ failed
    rcases halted_sendFrame (session.codec.encode command).1 limits clock.now
      session.config.retry 0 (session.numbered command).dropStale.2 clock with
        ⟨last, _, verdicts, halted⟩
    rw [failed] at halted
    cases halted with
    | settled verdict => exact .of_isVerdict (verdicts error verdict)
    | exhausted _ _ =>
      exact ⟨by simp [Error.isLimit, Error.isTimeout, Error.isCancelled], by simp⟩
    | limited _ _ excess => exact .of_excess excess
    | unnamed _ _ beyond =>
      exact ⟨by simp [Error.isLimit, Error.isTimeout, Error.isCancelled], fun _ => beyond⟩

end Session

end RoverLink
