import RoverLink.Proofs.Session.Halting

/-!
# Instants beyond the range

A sleep that heeds a token names the instant of its end, and this instant may be
beyond the range.  A request names no other instants of its own, so it fails with
an overflow exactly if it is to be sent again and the pause before that ends
beyond the range (`sendWithin_eq_clockOverflow_iff`).
-/

namespace RoverLink

/-! ### Sleeping -/

/-- Whether a sleep has to name an instant beyond the range. -/
structure Clock.Overflows (heedsToken : Bool) (nanoseconds : Nat) (clock : Clock) : Prop where
  heeds : heedsToken = true
  /-- A sleep with a cancelled token is over before its end is named. -/
  uncancelled : clock.isCancelled = false
  beyond : range ≤ clock.now + nanoseconds

theorem Clock.sleep_eq_none_iff
    {heedsToken : Bool}
    {nanoseconds : Nat}
    {clock : Clock} :
    clock.sleep heedsToken nanoseconds = none ↔ clock.Overflows heedsToken nanoseconds := by
  rw [sleep]
  constructor
  · intro endless
    split at endless
    next heeds =>
      split at endless
      · simp at endless
      next uncancelled =>
        split at endless
        · simp at endless
        next beyond => exact ⟨heeds, Bool.eq_false_iff.mpr uncancelled, Nat.le_of_not_lt beyond⟩
    next => simp at endless
  · rintro ⟨heeds, uncancelled, beyond⟩
    simp [heeds, uncancelled, Nat.not_lt.mpr beyond]

/-- A heeded sleep ends within the range, unless the token is cancelled. -/
theorem Clock.now_lt_range_of_sleep
    {nanoseconds : Nat}
    {clock later : Clock}
    (slept : clock.sleep true nanoseconds = some later)
    (uncancelled : later.isCancelled = false) :
    later.now < range := by
  rw [sleep, if_pos rfl] at slept
  split at slept
  next cancelled =>
    cases slept
    simp [cancelled] at uncancelled
  next =>
    split at slept
    next within' =>
      cases slept
      simp only [advanceTo]
      cases clock.cancelledFrom <;> simp <;> omega
    next => simp at slept

/-- The part of a sleep before the deadline. -/
def Limits.allowed (limits : Limits) (nanoseconds : Nat) (clock : Clock) : Nat :=
  match limits.deadline with
  | some deadline => min nanoseconds (deadline - clock.now)
  | .none => nanoseconds

theorem Limits.allowed_le (limits : Limits) (nanoseconds : Nat) (clock : Clock) :
    limits.allowed nanoseconds clock ≤ nanoseconds := by
  rw [allowed]
  split
  · exact Nat.min_le_left _ _
  · exact Nat.le_refl _

/-- No sleep up to a deadline within the range overflows before the clock has left the range. -/
theorem Limits.range_le_of_overflows
    {limits : Limits}
    {deadline nanoseconds : Nat}
    {clock : Clock}
    (set : limits.deadline = some deadline)
    (named : deadline < Clock.range)
    (overflows : clock.Overflows limits.heedsToken (limits.allowed nanoseconds clock)) :
    Clock.range ≤ clock.now := by
  have beyond := overflows.beyond
  simp only [allowed, set] at beyond
  omega

/-! ### The pause before another attempt -/

namespace Session

/-- Whether the pause after a number of attempts has to name an instant beyond the range. -/
structure PauseOverflows
    (policy : RetryPolicy)
    (limits : Limits)
    (attempts : Nat)
    (clock : Clock) :
    Prop where
  delayed : (policy.delayAfter attempts).nanoseconds ≠ 0
  overflows : clock.Overflows limits.heedsToken
    (limits.allowed (policy.delayAfter attempts).nanoseconds clock)

theorem pause_eq_none_iff
    {policy : RetryPolicy}
    {limits : Limits}
    {attempts : Nat}
    {clock : Clock} :
    pause policy limits attempts clock = none ↔ PauseOverflows policy limits attempts clock := by
  rw [pause]
  split
  next immediate => exact iff_of_false (by simp) fun overflows => overflows.delayed immediate
  next delayed =>
    exact Clock.sleep_eq_none_iff.trans ⟨fun overflows => ⟨delayed, overflows⟩,
      fun overflows => overflows.overflows⟩

/-- After a pause that was made, a limit stops the request before the clock leaves the range. -/
theorem not_pauseOverflows_of_isReached
    {policy : RetryPolicy}
    {limits : Limits}
    {attempts : Nat}
    {clock later : Clock}
    (paused : pause policy limits attempts clock = some later)
    (reached : limits.IsReached later) :
    ¬ PauseOverflows policy limits attempts later := by
  rintro ⟨delayed, heeds, uncancelled, beyond⟩
  rcases reached with ⟨_, cancelled⟩ | ⟨deadline, set, passed⟩
  · simp [cancelled] at uncancelled
  · rw [pause, if_neg delayed, Limits.sleep, heeds] at paused
    have inRange := Clock.now_lt_range_of_sleep paused uncancelled
    simp only [Limits.allowed, set] at beyond
    omega

/-- Whether a request is to be sent again, and the pause before that overflows. -/
structure Overflows
    (policy : RetryPolicy)
    (limits : Limits)
    (last : Option Ending)
    (attempts : Nat)
    (finish : Clock) :
    Prop where
  unsettled : ∃ ending, last = some ending ∧ ending.result? = none
  left : attempts < policy.maxAttempts
  pause : PauseOverflows policy limits attempts finish

theorem overflows_of_stopped
    {frame : List Char}
    {policy : RetryPolicy}
    {limits : Limits}
    {started attempts : Nat}
    {clock later : Clock}
    {last : Ending}
    {error : Error}
    (unsettled : last.result? = none)
    (stopped : resumption frame limits started policy attempts clock = (.error error, later)) :
    error = .clockOverflow ↔ Overflows policy limits (some last) attempts later := by
  have ways := resumption_cases frame limits started policy attempts clock
  rw [stopped] at ways
  cases ways with
  | exhausted spent =>
    exact iff_of_false (by simp) fun overflows => absurd overflows.left (Nat.not_lt.mpr spent)
  | unnamed left endless =>
    exact iff_of_true rfl ⟨⟨last, rfl, unsettled⟩, left, pause_eq_none_iff.mp endless⟩
  | limited _ paused excess =>
    have admits := not_pauseOverflows_of_isReached paused excess.isReached
    refine iff_of_false ?_ fun overflows => admits overflows.pause
    rintro rfl
    cases excess

variable {Stream : Type} [ByteStream Stream]

/-- What settles a request is no overflow. -/
theorem ne_clockOverflow_of_settled
    {session : Session Stream}
    {frame : List Char}
    {limits : Limits}
    {started : Nat}
    {clock : Clock}
    {result : Except Error Reply}
    (settled : (session.exchange frame limits started clock).ending.result? = some result) :
    result ≠ .error .clockOverflow := by
  rintro rfl
  rcases Ending.verdict_or_interrupted settled with verdict | ⟨error, interrupted, same⟩
  · have isVerdict := isVerdict_of_verdict? verdict
    simp [Error.isVerdict, Error.isReception, Error.deviceCode] at isVerdict
  · cases same
    cases excess_of_interrupted interrupted

theorem sendFrame_eq_clockOverflow_iff
    (frame : List Char)
    (limits : Limits)
    (started : Nat)
    (policy : RetryPolicy)
    (done : Nat)
    (session : Session Stream)
    (clock : Clock) :
    ∃ last,
      (endings frame limits started policy done session clock).getLast? = some last ∧
        ((sendFrame frame limits started policy done session clock).result =
            .error .clockOverflow ↔
          Overflows policy limits (some last)
            ((endings frame limits started policy done session clock).length + done)
            (sendFrame frame limits started policy done session clock).clock) := by
  refine sendFrame_induction frame limits started policy
    (motive := fun done _ _ step ended =>
      ∃ last, ended.getLast? = some last ∧
        (step.result = .error .clockOverflow ↔
          Overflows policy limits (some last) (ended.length + done) step.clock))
    ?settled ?stopped ?resumed done session clock
  case settled =>
    intro done session clock result settled
    refine ⟨_, rfl, iff_of_false (ne_clockOverflow_of_settled settled) ?_⟩
    rintro ⟨⟨ending, ⟨⟩, unsettled⟩, _, _⟩
    simp [settled] at unsettled
  case stopped =>
    intro done session clock error later unsettled stopped
    refine ⟨_, rfl, ?_⟩
    rw [List.length_singleton, Nat.add_comm, Except.error.injEq]
    exact overflows_of_stopped unsettled stopped
  case resumed =>
    intro done session clock later step rest _ _ induction
    rcases induction with ⟨last, final, overflows⟩
    refine ⟨last, by simp [List.getLast?_cons, final], ?_⟩
    rw [List.length_cons, Nat.add_right_comm]
    exact overflows

/-- A call overflows exactly if its request is to be sent again after a pause that overflows. -/
theorem sendWithin_eq_clockOverflow_iff
    (session : Session Stream)
    (command : Command)
    (limits : Limits)
    (clock : Clock) :
    (session.sendWithin command limits clock).result = .error .clockOverflow ↔
      Overflows session.config.retry limits (session.attempts command limits clock).getLast?
        (session.attempts command limits clock).length
        (session.sendWithin command limits clock).clock := by
  refine sendWithin_cases session command limits clock
    (motive := fun step attempts => step.result = .error .clockOverflow ↔
      Overflows session.config.retry limits attempts.getLast? attempts.length step.clock)
    ?refused ?undropped ?dropped
  case refused =>
    intro error refused
    refine iff_of_false ?_ fun overflows => ?_
    · rintro ⟨⟩
      cases Limits.exceeded?_eq_some_iff.mp refused
    · simpa using overflows.unsettled
  case undropped =>
    intro error _ undropped
    refine iff_of_false ?_ fun overflows => ?_
    · rintro ⟨⟩
      simpa [Error.isReception] using isReception_dropStale undropped
    · simpa using overflows.unsettled
  case dropped =>
    intro _ _
    rcases sendFrame_eq_clockOverflow_iff (session.codec.encode command).1 limits clock.now
      session.config.retry 0 (session.numbered command).dropStale.2 clock with
        ⟨last, final, overflows⟩
    rw [final]
    exact overflows

end Session

end RoverLink
