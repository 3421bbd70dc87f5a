import RoverLink.Proofs.Cnc.Waiting
import RoverLink.Proofs.Session.Overflow
import RoverLink.Stream.Scripted

/-!
# Waits that end beyond the range of instants

A wait names the end of the time allowed before it asks anything, and with a
token also the end of each of its pauses.  It fails with an overflow exactly if
one of these instants is beyond the range (`wait_overflows`).  A span can be
longer than the whole range, so there are such waits (`wait_overflows_longest`).
-/

namespace RoverLink

/-! ### The pause after an answer -/

/-- The longest pause after an answer, when some of the time allowed has elapsed. -/
def WaitOptions.allowed (options : WaitOptions) (elapsed : Nat) : Nat :=
  match options.timeout with
  | some timeout => min options.pollInterval.nanoseconds (timeout.nanoseconds - elapsed)
  | none => options.pollInterval.nanoseconds

theorem WaitOptions.allowed_le (options : WaitOptions) (elapsed : Nat) :
    options.allowed elapsed ≤ options.pollInterval.nanoseconds := by
  rw [allowed]
  split
  · exact Nat.min_le_left _ _
  · exact Nat.le_refl _

/-- Whether a wait goes on after an answer, and the end of its pause is beyond the range. -/
structure WaitOptions.PauseOverflows
    (options : WaitOptions)
    (started : Nat)
    (clock : Clock) :
    Prop where
  left : ∀ timeout, options.timeout = some timeout → clock.now - started < timeout.nanoseconds
  overflows : clock.Overflows options.heedsToken (options.allowed (clock.now - started))

/-- A pause within the time allowed does not overflow if the end of that time can be named. -/
theorem WaitOptions.not_pauseOverflows_of_isNamed
    {options : WaitOptions}
    {started clock : Clock}
    {timeout : Span}
    (set : options.timeout = some timeout)
    (named : started.now + timeout.nanoseconds < Clock.range) :
    ¬ options.PauseOverflows started.now clock := by
  intro overflows
  have left := overflows.left timeout set
  have beyond := overflows.overflows.beyond
  simp only [allowed, set] at beyond
  omega

/-- While some of the time allowed is left, a wait goes on after the pause that it allows. -/
theorem Cnc.waitPause_of_left
    {options : WaitOptions}
    {started : Nat}
    {clock : Clock}
    (left : ∀ timeout, options.timeout = some timeout →
      clock.now - started < timeout.nanoseconds) :
    waitPause options started clock =
      match clock.sleep options.heedsToken (options.allowed (clock.now - started)) with
      | some later => .ok later
      | none => .error .clockOverflow := by
  rw [waitPause, WaitOptions.allowed]
  cases set : options.timeout with
  | none => rfl
  | some timeout =>
    have early := Nat.not_le.mpr (left timeout set)
    cases slept : clock.sleep options.heedsToken (min options.pollInterval.nanoseconds
        (timeout.nanoseconds - (clock.now - started))) <;>
      simp [early, slept]

theorem Cnc.waitPause_of_late
    {options : WaitOptions}
    {started : Nat}
    {clock : Clock}
    {timeout : Span}
    (set : options.timeout = some timeout)
    (late : timeout.nanoseconds ≤ clock.now - started) :
    waitPause options started clock = .error (waitedTooLong options) := by
  simp [waitPause, set, late]

theorem Cnc.waitPause_eq_clockOverflow_iff
    {options : WaitOptions}
    {started : Nat}
    {clock : Clock} :
    waitPause options started clock = .error .clockOverflow ↔
      options.PauseOverflows started clock := by
  by_cases left : ∀ timeout, options.timeout = some timeout →
      clock.now - started < timeout.nanoseconds
  · rw [waitPause_of_left left]
    cases slept : clock.sleep options.heedsToken (options.allowed (clock.now - started)) with
    | some later =>
      refine iff_of_false (by simp) fun overflows => ?_
      simp [Clock.sleep_eq_none_iff.mpr overflows.overflows] at slept
    | none => exact iff_of_true rfl ⟨left, Clock.sleep_eq_none_iff.mp slept⟩
  · refine iff_of_false ?_ fun overflows => left overflows.left
    simp only [not_forall, Nat.not_lt] at left
    obtain ⟨timeout, set, late⟩ := left
    simp [waitPause_of_late set late, waitedTooLong]

/-! ### The error of a question -/

variable {Stream : Type} [ByteStream Stream]

theorem Reply.integer_ne_clockOverflow (reply : Reply) (index : Nat) :
    reply.integer index ≠ .error .clockOverflow := by
  rw [integer, number]
  cases reply.values[index]?.bind ReplyValue.number? with
  | none => simp [missing]
  | some value =>
    dsimp only
    cases value.toInt?.bind Word.int64? <;> simp [missing]

/-- A question overflows exactly if its request is sent again after a pause that overflows. -/
theorem Inquiry.answer_eq_clockOverflow_iff
    {inquiry : Inquiry Stream}
    {limits : Limits} :
    inquiry.answer limits = .error .clockOverflow ↔
      Session.Overflows inquiry.cnc.device.session.config.retry limits
        (inquiry.attempts limits).getLast? (inquiry.attempts limits).length
        (inquiry.step limits).clock := by
  rw [step_eq, answer, attempts, request, Device.executeWithin]
  by_cases configured : inquiry.cnc.device.isConfigured = true
  · rw [if_pos configured, if_pos configured]
    refine Iff.trans ?_ (Session.sendWithin_eq_clockOverflow_iff _ _ _ _)
    rw [Device.transmit, Step.result_within]
    split
    next reply succeeded =>
      simp [succeeded, reply.integer_ne_clockOverflow]
    next error failed => simp [failed]
  · rw [if_neg configured, if_neg configured]
    refine iff_of_false (by simp [Step.refuse]) fun overflows => ?_
    simpa using overflows.unsettled

/-! ### Waits -/

/-- How a question overflows: it fails with an overflow itself, or the pause after it does. -/
inductive Inquiry.Overflows
    (options : WaitOptions)
    (started : Nat)
    (limits : Limits)
    (inquiry : Inquiry Stream) :
    Prop where
  /-- The request was to be sent again, and the pause before that overflows. -/
  | backoff
      (overflows : Session.Overflows inquiry.cnc.device.session.config.retry limits
        (inquiry.attempts limits).getLast? (inquiry.attempts limits).length
        (inquiry.step limits).clock)
  /-- The board is busy, and the pause before the next question overflows. -/
  | pause
      (busy : inquiry.IsBusy limits)
      (overflows : options.PauseOverflows started (inquiry.step limits).clock)

theorem Cnc.waitError_eq_clockOverflow_iff
    {options : WaitOptions}
    {error : Error} :
    waitError options error = .clockOverflow ↔ error = .clockOverflow := by
  rw [waitError, waitedTooLong]
  split
  next isTimeout =>
    refine iff_of_false (by simp) ?_
    rintro rfl
    simp [Error.isTimeout] at isTimeout
  next => rfl

/-- A question that ends the wait ends it with an overflow exactly if it overflows. -/
theorem Inquiry.Ends.eq_clockOverflow_iff
    {options : WaitOptions}
    {started : Nat}
    {limits : Limits}
    {inquiry : Inquiry Stream}
    {result : Except Error Unit}
    (ends : inquiry.Ends options started limits result) :
    result = .error .clockOverflow ↔ inquiry.Overflows options started limits := by
  constructor
  · intro overflow
    cases ends with
    | failed failed =>
      rw [Except.error.injEq, Cnc.waitError_eq_clockOverflow_iff] at overflow
      exact .backoff (answer_eq_clockOverflow_iff.mp (overflow ▸ failed))
    | idle _ => cases overflow
    | stopped busy stopped =>
      cases overflow
      exact .pause busy (Cnc.waitPause_eq_clockOverflow_iff.mp stopped)
  · rintro (overflows | ⟨busy, overflows⟩)
    · rw [ends.of_answer_eq_error (answer_eq_clockOverflow_iff.mpr overflows)]
      rfl
    · obtain ⟨error, stopped, rfl⟩ := ends.of_isBusy busy
      exact congrArg Except.error
        (Except.error.inj (stopped.symm.trans (Cnc.waitPause_eq_clockOverflow_iff.mpr overflows)))

namespace WaitEnds

variable {options : WaitOptions} {started : Nat} {limits : Limits}
variable {first : Inquiry Stream} {last : Option (Inquiry Stream)} {step : Step (Cnc Stream) Unit}

/-- A wait overflows with its last question, and at the same instant. -/
theorem exists_overflows
    (ends : WaitEnds options started limits first last step)
    (overflow : step.result = .error .clockOverflow) :
    ∃ inquiry, last = some inquiry ∧ inquiry.Overflows options started limits ∧
      step.clock = (inquiry.step limits).clock := by
  cases ends with
  | untried _ _ => cases overflow
  | cancelled _ _ _ _ => cases overflow
  | ended ends => exact ⟨_, rfl, ends.eq_clockOverflow_iff.mp overflow, rfl⟩

theorem eq_clockOverflow
    {inquiry : Inquiry Stream}
    (ends : WaitEnds options started limits first (some inquiry) step)
    (overflows : inquiry.Overflows options started limits) :
    step.result = .error .clockOverflow := by
  cases ends with
  | cancelled busy paused _ _ =>
    rcases overflows with overflows | ⟨_, overflows⟩
    · simp [Inquiry.isBusy_iff, Inquiry.answer_eq_error_iff.mp
        (Inquiry.answer_eq_clockOverflow_iff.mpr overflows)] at busy
    · simp [Cnc.waitPause_eq_clockOverflow_iff.mpr overflows] at paused
  | ended ends => exact ends.eq_clockOverflow_iff.mpr overflows

end WaitEnds

namespace Inquiry.Overflows

variable {options : WaitOptions} {started : Clock} {inquiry : Inquiry Stream}
variable (overflows : inquiry.Overflows options started.now (options.limits started))

include overflows

/-- Only the end of a pause that heeds a token is named, and it is at most the whole pause away. -/
theorem near :
    options.heedsToken = true ∧
      (inquiry.step (options.limits started)).clock.isCancelled = false ∧
        ∃ pause,
          (pause = options.pollInterval ∨
            ∃ attempts, pause = inquiry.cnc.device.session.config.retry.delayAfter attempts) ∧
          Clock.range ≤
            (inquiry.step (options.limits started)).clock.now + pause.nanoseconds := by
  rcases overflows with overflows | ⟨_, overflows⟩
  · have pause := overflows.pause.overflows
    exact ⟨pause.heeds, pause.uncancelled, _, .inr ⟨_, rfl⟩,
      Nat.le_trans pause.beyond (Nat.add_le_add_left (Limits.allowed_le _ _ _) _)⟩
  · have pause := overflows.overflows
    exact ⟨pause.heeds, pause.uncancelled, _, .inl rfl,
      Nat.le_trans pause.beyond (Nat.add_le_add_left (options.allowed_le _) _)⟩

/-- If the end of the time allowed can be named, an overflow needs a clock beyond the range. -/
theorem range_le
    (limited : options.timeout.isSome)
    (named : options.IsNamed started) :
    Clock.range ≤ (inquiry.step (options.limits started)).clock.now := by
  obtain ⟨timeout, set⟩ := Option.isSome_iff_exists.mp limited
  have deadline : options.deadline started = some (started.now + timeout.nanoseconds) := by
    simp [WaitOptions.deadline, set]
  have inRange := named _ deadline
  rcases overflows with overflows | ⟨_, overflows⟩
  · exact Limits.range_le_of_overflows deadline inRange overflows.pause.overflows
  · exact (WaitOptions.not_pauseOverflows_of_isNamed set inRange overflows).elim

end Inquiry.Overflows

/-- When a wait fails because it has to name an instant beyond the range. -/
structure Cnc.WaitOverflows
    (cnc : Cnc Stream)
    (options : WaitOptions)
    (clock : Clock) :
    Prop where
  /-- The end of the time allowed is beyond the range, or the last question overflows. -/
  exactly : (cnc.wait options clock).result = .error .clockOverflow ↔
    ¬ options.IsNamed clock ∨
      ∃ inquiry, (cnc.asked options clock).getLast? = some inquiry ∧
        inquiry.Overflows options clock.now (options.limits clock)
  /-- If the end of the time allowed is beyond the range, nothing is asked. -/
  unasked : ¬ options.IsNamed clock →
    cnc.asked options clock = [] ∧ cnc.wait options clock = ⟨.error .clockOverflow, cnc, clock⟩
  /-- A wait that heeds no token names no other instant. -/
  unheeded : options.heedsToken = false →
    ((cnc.wait options clock).result = .error .clockOverflow ↔ ¬ options.IsNamed clock)
  /-- Nor does a wait for a limited time overflow otherwise while the clock is within the range. -/
  timed : options.timeout.isSome → (cnc.wait options clock).clock.now < Clock.range →
    ((cnc.wait options clock).result = .error .clockOverflow ↔ ¬ options.IsNamed clock)
  /-- Otherwise the clock is at most one pause away from the end of the range. -/
  near : options.IsNamed clock → (cnc.wait options clock).result = .error .clockOverflow →
    (cnc.wait options clock).clock.isCancelled = false ∧
      ∃ pause,
        (pause = options.pollInterval ∨
          ∃ inquiry ∈ cnc.asked options clock, ∃ attempts,
            pause = inquiry.cnc.device.session.config.retry.delayAfter attempts) ∧
        Clock.range ≤ (cnc.wait options clock).clock.now + pause.nanoseconds

/-- A wait overflows exactly if an instant that it has to name is beyond the range. -/
theorem Cnc.wait_overflows
    (cnc : Cnc Stream)
    (options : WaitOptions)
    (clock : Clock) :
    cnc.WaitOverflows options clock := by
  have refused : ¬ options.IsNamed clock →
      (cnc.wait options clock).result = .error .clockOverflow := by
    intro unnamed
    rw [(cnc.wait_of_not_isNamed unnamed).2]
  have last : (cnc.wait options clock).result = .error .clockOverflow → options.IsNamed clock →
      ∃ inquiry, (cnc.asked options clock).getLast? = some inquiry ∧
        inquiry.Overflows options clock.now (options.limits clock) ∧
        (cnc.wait options clock).clock = (inquiry.step (options.limits clock)).clock :=
    fun overflow named => (cnc.waits_wait named).ends.exists_overflows overflow
  constructor
  case exactly =>
    by_cases named : options.IsNamed clock
    · constructor
      · intro overflow
        obtain ⟨inquiry, final, overflows, _⟩ := last overflow named
        exact .inr ⟨inquiry, final, overflows⟩
      · rintro (unnamed | ⟨inquiry, final, overflows⟩)
        · exact refused unnamed
        · have ends := (cnc.waits_wait named).ends
          rw [final] at ends
          exact ends.eq_clockOverflow overflows
    · exact iff_of_true (refused named) (.inl named)
  case unasked => exact cnc.wait_of_not_isNamed
  case unheeded =>
    intro unheeded
    refine ⟨fun overflow named => ?_, refused⟩
    obtain ⟨inquiry, _, overflows, _⟩ := last overflow named
    exact absurd overflows.near.1 (by simp [unheeded])
  case timed =>
    intro limited inRange
    refine ⟨fun overflow named => ?_, refused⟩
    obtain ⟨inquiry, _, overflows, finish⟩ := last overflow named
    rw [finish] at inRange
    exact Nat.not_le.mpr inRange (overflows.range_le limited named)
  case near =>
    intro named overflow
    obtain ⟨inquiry, final, overflows, finish⟩ := last overflow named
    rw [finish]
    obtain ⟨_, uncancelled, pause, length, beyond⟩ := overflows.near
    refine ⟨uncancelled, pause, length.imp_right fun ⟨attempts, same⟩ => ?_, beyond⟩
    exact ⟨inquiry, List.mem_of_getLast? final, attempts, same⟩

/-! ### Waits that overflow -/

/-- A board with a configuration that answers its first question busy. -/
def Cnc.busyOnce : Cnc Scripted :=
  ⟨⟨"cnc", .new (Scripted.empty.reply [.line "#[0,1]".toList])
      ⟨.withoutBackoff 1, .ofMilliseconds 10000, .placeholder⟩, some .standard, false⟩, .idle⟩

/-- The longest time allowed overflows before anything is asked, and the longest pause after it. -/
theorem Cnc.wait_overflows_longest :
    (busyOnce.wait ⟨.ofMilliseconds 1000, some .longest, false⟩ .start).result =
        .error .clockOverflow ∧
      (busyOnce.wait ⟨.longest, none, true⟩ .start).result = .error .clockOverflow := by
  constructor
  · exact (busyOnce.wait_overflows _ _).exactly.mpr (.inl (by decide))
  · decide +kernel

end RoverLink
