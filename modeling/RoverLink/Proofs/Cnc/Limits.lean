import RoverLink.Proofs.Cnc.Waiting

/-!
# A wait stops at its limits

The journal of a wait is the sequence of the journals of its questions.  When the
token is cancelled or the deadline passes, nothing more is asked of the stream,
and the wait still returns what its last question brought, if that ends the wait
(`WaitHalted`).  Sending a command and waiting both stop in this way
(`stops_at_limits`).  The journal is the log of the stream, without which both go
the same way (`Session.deliver_forget`, `Cnc.wait_forget`).
-/

namespace RoverLink

variable {Stream : Type} [ByteStream Stream]

/-- What a wait asks of its stream are the journals of its questions. -/
theorem Waits.records
    {options : WaitOptions}
    {started : Nat}
    {limits : Limits}
    {first : Inquiry (Logged Stream)}
    {polls : List (Inquiry (Logged Stream))}
    {step : Step (Cnc (Logged Stream)) Unit}
    (waits : Waits options started limits first polls step) :
    Records limits first.cnc.device.session.stream first.clock
      (polls.flatMap fun inquiry => inquiry.journal limits)
      step.state.device.session.stream step.clock := by
  induction waits with
  | cancelled _ _ => exact .nil limits _ (.refl _)
  | ended _ =>
    rw [List.flatMap_singleton]
    exact Inquiry.records_step _ limits
  | @resumed first _ _ _ _ paused _ induction =>
    rw [List.flatMap_cons]
    have paused := Records.nil limits (first.step limits).state.device.session.stream
      (Cnc.precedes_waitPause paused)
    exact (first.records_step limits).trans (paused.trans induction)

/-- The board is left as the last question left it. -/
theorem WaitEnds.state_eq
    {options : WaitOptions}
    {started : Nat}
    {limits : Limits}
    {first last : Inquiry Stream}
    {step : Step (Cnc Stream) Unit}
    (ends : WaitEnds options started limits first (some last) step) :
    step.state = (last.step limits).state := by
  cases ends <;> rfl

/-- How a wait ends at a clock after its last question, if it asked one. -/
inductive WaitHalted
    (options : WaitOptions)
    (started finish : Clock)
    (last : Option (Inquiry Stream)) :
    Except Error Unit → Prop where
  | idle {inquiry : Inquiry Stream}
      (final : last = some inquiry)
      (idle : inquiry.IsIdle (options.limits started)) :
      WaitHalted options started finish last (.ok ())
  /-- The last question ended with an error that is not the one of a limit. -/
  | failed {inquiry : Inquiry Stream} {error : Error}
      (final : last = some inquiry)
      (unanswered : inquiry.answer (options.limits started) = .error error)
      (other : error.isLimit = false)
      (named : error = .clockOverflow → Clock.range ≤ finish.now) :
      WaitHalted options started finish last (.error error)
  /-- Otherwise the limit that has been reached ends the wait. -/
  | limited {error : Error}
      (unsettled : ∀ inquiry, last = some inquiry →
        inquiry.IsBusy (options.limits started) ∨
          ∃ reason, inquiry.answer (options.limits started) = .error reason ∧
            reason.isLimit = true)
      (excess : options.Excess started finish error) :
      WaitHalted options started finish last (.error error)

theorem WaitEnds.halted
    {options : WaitOptions}
    {started : Clock}
    {first : Inquiry (Logged Stream)}
    {last : Option (Inquiry (Logged Stream))}
    {step : Step (Cnc (Logged Stream)) Unit}
    (ends : WaitEnds options started.now (options.limits started) first last step)
    (since : ∀ inquiry, last = some inquiry → started.Precedes inquiry.clock)
    (reached : (options.limits started).IsReached step.clock) :
    WaitHalted options started step.clock last step.result := by
  cases ends with
  | untried heeds cancelled => exact .limited (by simp) (.cancelled heeds cancelled)
  | cancelled busy _ heeds cancelled =>
    refine .limited ?_ (.cancelled heeds cancelled)
    rintro inquiry ⟨rfl⟩
    exact .inl busy
  | @ended last _ ends =>
    cases ends with
    | @failed reason unanswered =>
      cases isLimit : reason.isLimit with
      | true =>
        refine .limited ?_ (Inquiry.excess_of_answer unanswered isLimit)
        rintro inquiry ⟨rfl⟩
        exact .inr ⟨reason, unanswered, isLimit⟩
      | false =>
        rw [Cnc.waitError_of_not_isLimit isLimit]
        exact .failed rfl unanswered isLimit
          fun overflow => (Inquiry.blames_answer unanswered).unnamed overflow reached
    | idle idle => exact .idle rfl idle
    | stopped busy stopped =>
      have begun := (since last rfl).trans (last.precedes_step (options.limits started))
      rcases Cnc.of_waitPause_eq_error begun.now stopped with excess | ⟨_, unreached, _⟩
      · refine .limited ?_ excess
        rintro inquiry ⟨rfl⟩
        exact .inl busy
      · exact (unreached reached).elim

/-- How a wait that is to end at its limits uses its stream, and how it ends. -/
structure Cnc.HeedsLimits
    (cnc : Cnc (Logged Stream))
    (options : WaitOptions)
    (clock : Clock)
    (polls : List (Inquiry (Logged Stream)))
    (step : Step (Cnc (Logged Stream)) Unit) :
    Prop where
  /-- The journals of the questions are all that the wait asks of its stream. -/
  records :
    Records (options.limits clock) cnc.device.session.stream clock
      (polls.flatMap fun inquiry => inquiry.journal (options.limits clock))
      step.state.device.session.stream step.clock
  stops : Stops (options.limits clock)
    (polls.flatMap fun inquiry => inquiry.journal (options.limits clock))
  /-- If the token is cancelled before the wait, the wait does nothing. -/
  refused : options.IsNamed clock → options.heedsToken = true → clock.isCancelled = true →
    polls = [] ∧ step = ⟨.error .cancelled, cnc, clock⟩
  /-- If a limit is reached, the last question says how the wait ends. -/
  halted : options.IsNamed clock → (options.limits clock).IsReached step.clock →
    WaitHalted options clock step.clock polls.getLast? step.result
  /-- The next request drops the input if waiting for the last reply was given up. -/
  drops : ∀ inquiry, polls.getLast? = some inquiry →
    (inquiry.attempts (options.limits clock)).any Ending.isAbandoned = true →
      step.state.device.session.DropsNext

theorem Inquiry.dropsNext_of_isAbandoned
    {inquiry : Inquiry (Logged Stream)}
    {limits : Limits}
    (abandoned : (inquiry.attempts limits).any Ending.isAbandoned = true) :
    (inquiry.step limits).state.device.session.DropsNext := by
  apply Session.DropsNext.of_staleInput
  rw [attempts] at abandoned
  rw [step_eq]
  simp only [request, Device.executeWithin]
  split at abandoned
  next configured =>
    rw [if_pos configured]
    exact Session.staleInput_sendWithin_of_isAbandoned abandoned
  next => simp at abandoned

theorem Cnc.heedsLimits
    (cnc : Cnc (Logged Stream))
    (options : WaitOptions)
    (clock : Clock) :
    cnc.HeedsLimits options clock (cnc.asked options clock) (cnc.wait options clock) := by
  by_cases named : options.IsNamed clock
  · have waits := cnc.waits_wait named
    have since : ∀ inquiry, (cnc.asked options clock).getLast? = some inquiry →
        clock.Precedes inquiry.clock :=
      fun inquiry last => waits.since (.refl clock) inquiry (List.mem_of_getLast? last)
    constructor
    case records => exact waits.records
    case stops => exact waits.records.stops
    case refused =>
      intro _ heeds cancelled
      rcases cnc.wait_of_isNamed named with ⟨asks, waits⟩
      have asks := asks.trans (inquiries_eq options clock.now _ ⟨cnc, clock⟩)
      have waits := waits.trans (waitFrom_eq options clock.now _ ⟨cnc, clock⟩)
      simp only [heeds, cancelled, Bool.and_self, if_true] at asks waits
      exact ⟨asks, waits⟩
    case halted => exact fun _ => waits.ends.halted since
    case drops =>
      intro inquiry last abandoned
      have ends := waits.ends
      rw [last] at ends
      rw [ends.state_eq]
      exact Inquiry.dropsNext_of_isAbandoned abandoned
  · rcases cnc.wait_of_not_isNamed named with ⟨none, refuses⟩
    rw [none, refuses]
    have records := Records.nil (options.limits clock) cnc.device.session.stream (.refl clock)
    constructor
    case records => exact records
    case stops => exact records.stops
    case refused => exact fun named' => (named named').elim
    case halted => exact fun named' => (named named').elim
    case drops => simp

/-- Sending a command and waiting for the end of a motion both stop at their limits. -/
theorem stops_at_limits :
    (∀ (session : Session (Logged Stream)) command limits clock,
      session.HeedsLimits command limits clock) ∧
      ∀ (cnc : Cnc (Logged Stream)) options clock,
        cnc.HeedsLimits options clock (cnc.asked options clock) (cnc.wait options clock) :=
  ⟨Session.heedsLimits, Cnc.heedsLimits⟩

end RoverLink
