import RoverLink.Proofs.Cnc.StreamMap

/-!
# Waiting for the end of a motion

A wait succeeds exactly if its last question is answered with zero, and asks
nothing behind a question that is not answered busy.  How it ends depends on its
last question alone (`WaitEnds`).  The motion state is the one that the last
answered question left (`waits_until_idle`).

The stream keeps a log of what is written, which changes nothing about the wait
(`Cnc.wait_forget`).
-/

namespace RoverLink

/-- Why a wait that started at a clock has to end. -/
inductive WaitOptions.Excess (options : WaitOptions) (started finish : Clock) : Error → Prop where
  | cancelled
      (heeds : options.heedsToken = true)
      (cancelled : finish.isCancelled = true) :
      Excess options started finish .cancelled
  | timeout {timeout : Span}
      (set : options.timeout = some timeout)
      (passed : started.now + timeout.nanoseconds ≤ finish.now) :
      Excess options started finish (.timeout timeout.milliseconds)

theorem WaitOptions.Excess.isReached
    {options : WaitOptions}
    {started finish : Clock}
    {error : Error}
    (excess : options.Excess started finish error) :
    (options.limits started).IsReached finish := by
  cases excess with
  | cancelled heeds cancelled => exact .inl ⟨heeds, cancelled⟩
  | timeout set passed => exact .inr ⟨_, by simp [limits, deadline, set], passed⟩

/-! ### Pauses -/

/-- A pause after an answer is one that ends at the deadline at the latest. -/
theorem Cnc.waitPause_eq
    (options : WaitOptions)
    {started clock : Clock}
    (since : started.now ≤ clock.now) :
    waitPause options started.now clock =
      if (options.deadline started).any (· ≤ clock.now) then
        .error (waitedTooLong options)
      else
        match (options.limits started).sleep options.pollInterval.nanoseconds clock with
        | some later => .ok later
        | none => .error .clockOverflow := by
  rw [waitPause]
  cases set : options.timeout with
  | none =>
    cases slept : clock.sleep options.heedsToken options.pollInterval.nanoseconds <;>
      simp [WaitOptions.deadline, WaitOptions.limits, Limits.sleep, set, slept]
  | some timeout =>
    have passed : timeout.nanoseconds ≤ clock.now - started.now ↔
        started.now + timeout.nanoseconds ≤ clock.now := by omega
    have left : timeout.nanoseconds - (clock.now - started.now) =
        started.now + timeout.nanoseconds - clock.now := by omega
    by_cases late : started.now + timeout.nanoseconds ≤ clock.now
    · simp [WaitOptions.deadline, set, passed, late]
    · cases slept : clock.sleep options.heedsToken (min options.pollInterval.nanoseconds
          (started.now + timeout.nanoseconds - clock.now)) <;>
        simp [WaitOptions.deadline, WaitOptions.limits, Limits.sleep, set, passed, left, late,
          slept]

/-! ### How a wait ends -/

section

variable {Stream : Type} [ByteStream Stream]

namespace Inquiry.Ends

variable {options : WaitOptions} {started : Nat} {limits : Limits}
variable {inquiry : Inquiry Stream} {result : Except Error Unit}

theorem of_isBusy
    (ends : inquiry.Ends options started limits result)
    (busy : inquiry.IsBusy limits) :
    ∃ error, Cnc.waitPause options started (inquiry.step limits).clock = .error error ∧
      result = .error error := by
  have answer := isBusy_iff.mp busy
  cases ends with
  | failed failed => simp [answer_eq_error_iff.mp failed] at answer
  | idle idle => exact (not_isBusy_of_isIdle idle busy).elim
  | stopped _ stopped => exact ⟨_, stopped, rfl⟩

theorem of_answer_eq_error
    {error : Error}
    (ends : inquiry.Ends options started limits result)
    (unanswered : inquiry.answer limits = .error error) :
    result = .error (Cnc.waitError options error) := by
  have answer := answer_eq_error_iff.mp unanswered
  cases ends with
  | failed failed =>
    cases failed.symm.trans unanswered
    rfl
  | idle idle => simp [isIdle_iff.mp idle] at answer
  | stopped busy _ => simp [isBusy_iff.mp busy] at answer

end Inquiry.Ends

/-- How a wait ends after its last question, if it asked one. -/
inductive WaitEnds
    (options : WaitOptions)
    (started : Nat)
    (limits : Limits)
    (first : Inquiry Stream) :
    Option (Inquiry Stream) → Step (Cnc Stream) Unit → Prop where
  | untried
      (heeds : options.heedsToken = true)
      (cancelled : first.clock.isCancelled = true) :
      WaitEnds options started limits first none ⟨.error .cancelled, first.cnc, first.clock⟩
  | cancelled {last : Inquiry Stream} {later : Clock}
      (busy : last.IsBusy limits)
      (paused : Cnc.waitPause options started (last.step limits).clock = .ok later)
      (heeds : options.heedsToken = true)
      (cancelled : later.isCancelled = true) :
      WaitEnds options started limits first (some last)
        ⟨.error .cancelled, (last.step limits).state, later⟩
  | ended {last : Inquiry Stream} {result : Except Error Unit}
      (ends : last.Ends options started limits result) :
      WaitEnds options started limits first (some last)
        ⟨result, (last.step limits).state, (last.step limits).clock⟩

namespace Waits

variable {options : WaitOptions} {limits : Limits} {first : Inquiry Stream}
variable {polls : List (Inquiry Stream)} {step : Step (Cnc Stream) Unit}

theorem ends
    {started : Nat}
    (waits : Waits options started limits first polls step) :
    WaitEnds options started limits first polls.getLast? step := by
  induction waits with
  | cancelled heeds cancelled => exact .untried heeds cancelled
  | ended ends => exact .ended ends
  | @resumed first later polls step busy paused rest induction =>
    rw [List.getLast?_cons]
    cases final : polls.getLast? with
    | none =>
      rw [final] at induction
      cases induction with
      | untried heeds cancelled => exact .cancelled busy paused heeds cancelled
    | some last =>
      rw [final] at induction
      cases induction with
      | cancelled busy paused heeds cancelled => exact .cancelled busy paused heeds cancelled
      | ended ends => exact .ended ends

/-- The motion state is the one that the last answered question left. -/
theorem state_eq
    {started : Nat}
    (waits : Waits options started limits first polls step) :
    step.state.state =
      (polls.filterMap fun inquiry => inquiry.stateLeft? limits).getLast?.getD
        first.cnc.state := by
  induction waits with
  | cancelled _ _ => rfl
  | @ended first _ _ =>
    rw [← first.getD_stateLeft? limits]
    cases left : first.stateLeft? limits <;> simp [left]
  | @resumed first later polls step busy _ _ induction =>
    have left : first.stateLeft? limits = some (first.step limits).state.state := by
      rw [Inquiry.stateLeft?, Inquiry.isBusy_iff.mp busy]
    rw [induction, List.filterMap_cons, left, List.getLast?_cons, Option.getD_some]

end Waits

end

/-! ### What a wait writes, and when -/

section

variable {Stream : Type} [ByteStream Stream]
variable {options : WaitOptions} {limits : Limits} {first : Inquiry (Logged Stream)}
variable {polls : List (Inquiry (Logged Stream))} {step : Step (Cnc (Logged Stream)) Unit}

theorem Cnc.precedes_waitPause
    {started : Nat}
    {clock later : Clock}
    (paused : waitPause options started clock = .ok later) :
    clock.Precedes later := by
  simp only [waitPause] at paused
  split at paused
  · simp at paused
  · split at paused
    next slept =>
      cases paused
      exact Clock.precedes_sleep slept
    next => simp at paused

/-- All questions are asked after the wait has begun. -/
theorem Waits.since
    {started : Nat}
    (waits : Waits options started limits first polls step)
    {begin : Clock}
    (since : begin.Precedes first.clock) :
    ∀ inquiry ∈ polls, begin.Precedes inquiry.clock := by
  induction waits with
  | cancelled _ _ => simp
  | ended _ => simpa using since
  | @resumed first _ _ _ _ paused _ induction =>
    have next := since.trans ((first.precedes_step limits).trans (Cnc.precedes_waitPause paused))
    exact List.forall_mem_cons.mpr ⟨since, induction next⟩

/-! ### The limits of a wait -/

theorem Inquiry.excess_of_answer
    {inquiry : Inquiry (Logged Stream)}
    {started : Clock}
    {error : Error}
    (failed : inquiry.answer (options.limits started) = .error error)
    (isLimit : error.isLimit = true) :
    options.Excess started (inquiry.step (options.limits started)).clock
      (Cnc.waitError options error) := by
  cases (blames_answer failed).limit isLimit with
  | cancelled heeds cancelled => exact .cancelled heeds cancelled
  | @timeout deadline _ set passed =>
    rcases Option.map_eq_some_iff.mp set with ⟨timeout, chosen, rfl⟩
    simp only [Cnc.waitError, Error.isTimeout, if_true, Cnc.waitedTooLong, chosen,
      Option.map_some, Option.getD_some]
    exact .timeout chosen passed

/-- A wait goes on after an answer unless the time is over or its end cannot be named. -/
theorem Cnc.of_waitPause_eq_error
    {started clock : Clock}
    {error : Error}
    (since : started.now ≤ clock.now)
    (stopped : waitPause options started.now clock = .error error) :
    options.Excess started clock error ∨
      error = .clockOverflow ∧ ¬ (options.limits started).IsReached clock ∧
        (options.limits started).sleep options.pollInterval.nanoseconds clock = none := by
  rw [waitPause_eq options since] at stopped
  split at stopped
  next late =>
    cases stopped
    cases set : options.timeout with
    | none => simp [WaitOptions.deadline, set] at late
    | some timeout =>
      refine .inl ?_
      simp only [waitedTooLong, set, Option.map_some, Option.getD_some]
      exact .timeout set (by simpa [WaitOptions.deadline, set] using late)
  next left =>
    split at stopped
    · simp at stopped
    next endless =>
      cases stopped
      refine .inr ⟨rfl, ?_, endless⟩
      rintro (⟨heeds, cancelled⟩ | ⟨deadline, set, passed⟩)
      · simp [Limits.sleep, Clock.sleep, heeds, cancelled] at endless
      · have same : options.deadline started = some deadline := set
        simp [same, passed] at left

theorem Cnc.waitError_of_not_isLimit
    {error : Error}
    (other : error.isLimit = false) :
    waitError options error = error := by
  rw [Error.isLimit, Bool.or_eq_false_iff] at other
  rw [waitError, other.1]
  rfl

/-- A wait ends with the error of a limit only if this limit has been reached. -/
theorem WaitEnds.excess
    {started : Clock}
    {last : Option (Inquiry (Logged Stream))}
    {error : Error}
    (ends : WaitEnds options started.now (options.limits started) first last step)
    (since : ∀ inquiry, last = some inquiry → started.Precedes inquiry.clock)
    (failed : step.result = .error error)
    (isLimit : error.isLimit = true) :
    options.Excess started step.clock error := by
  cases ends with
  | untried heeds cancelled =>
    cases failed
    exact .cancelled heeds cancelled
  | cancelled _ _ heeds cancelled =>
    cases failed
    exact .cancelled heeds cancelled
  | @ended last _ ends =>
    cases ends with
    | @failed reason unanswered =>
      cases failed
      cases isLimit' : reason.isLimit with
      | true => exact Inquiry.excess_of_answer unanswered isLimit'
      | false => simp [Cnc.waitError_of_not_isLimit isLimit', isLimit'] at isLimit
    | idle _ => simp at failed
    | stopped _ stopped =>
      cases failed
      have begun := (since last rfl).trans (last.precedes_step (options.limits started))
      rcases Cnc.of_waitPause_eq_error begun.now stopped with excess | ⟨rfl, _⟩
      · exact excess
      · simp [Error.isLimit, Error.isTimeout, Error.isCancelled] at isLimit

/-! ### Questions that are answered busy -/

/-- Keeping the log changes nothing about a wait. -/
theorem Cnc.wait_forget
    (cnc : Cnc (Logged Stream))
    (options : WaitOptions)
    (clock : Clock) :
    (cnc.wait options clock).within (mapStream Logged.stream) =
      (cnc.mapStream Logged.stream).wait options clock :=
  (wait_map Logged.forget cnc options clock).symm

end

end RoverLink
