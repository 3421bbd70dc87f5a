import RoverLink.Proofs.Cnc.Inquiry

/-!
# The questions of a wait

A wait for the end of a motion is a sequence of questions whether the board is
busy, which `asked` lists.  The relation `Waits` has one constructor for each way
in which a round of the wait goes on or ends, so what is true of every wait is
shown by induction on it.
-/

namespace RoverLink

/-- The instant at which a wait that starts now has taken too long. -/
def WaitOptions.deadline (options : WaitOptions) (clock : Clock) : Option Nat :=
  options.timeout.map (clock.now + ·.nanoseconds)

/-- The limits of the questions of a wait that starts now. -/
def WaitOptions.limits (options : WaitOptions) (clock : Clock) : Limits :=
  ⟨options.deadline clock, options.heedsToken⟩

/-- Whether the deadline of a wait that starts now is within the range of instants. -/
def WaitOptions.IsNamed (options : WaitOptions) (clock : Clock) : Prop :=
  ∀ deadline ∈ options.deadline clock, deadline < Clock.range

instance (options : WaitOptions) (clock : Clock) : Decidable (options.IsNamed clock) :=
  inferInstanceAs (Decidable (∀ deadline ∈ options.deadline clock, deadline < Clock.range))

variable {Stream : Type} [ByteStream Stream]

/-- How a question ends the wait in which it is asked. -/
inductive Inquiry.Ends
    (options : WaitOptions)
    (started : Nat)
    (limits : Limits)
    (inquiry : Inquiry Stream) :
    Except Error Unit → Prop where
  | failed {error : Error}
      (failed : inquiry.answer limits = .error error) :
      Ends options started limits inquiry (.error (Cnc.waitError options error))
  | idle
      (idle : inquiry.IsIdle limits) :
      Ends options started limits inquiry (.ok ())
  /-- The board is busy, and the wait does not go on. -/
  | stopped {error : Error}
      (busy : inquiry.IsBusy limits)
      (stopped : Cnc.waitPause options started (inquiry.step limits).clock = .error error) :
      Ends options started limits inquiry (.error error)

/-- The questions of a wait and its step, from a first question that it may ask. -/
inductive Waits (options : WaitOptions) (started : Nat) (limits : Limits) :
    Inquiry Stream → List (Inquiry Stream) → Step (Cnc Stream) Unit → Prop where
  | cancelled {first : Inquiry Stream}
      (heeds : options.heedsToken = true)
      (cancelled : first.clock.isCancelled = true) :
      Waits options started limits first [] ⟨.error .cancelled, first.cnc, first.clock⟩
  | ended {first : Inquiry Stream} {result : Except Error Unit}
      (ends : first.Ends options started limits result) :
      Waits options started limits first [first]
        ⟨result, (first.step limits).state, (first.step limits).clock⟩
  /-- The board is busy, and after a pause it may be asked again. -/
  | resumed {first : Inquiry Stream} {later : Clock} {polls : List (Inquiry Stream)}
      {step : Step (Cnc Stream) Unit}
      (busy : first.IsBusy limits)
      (paused : Cnc.waitPause options started (first.step limits).clock = .ok later)
      (rest : Waits options started limits ⟨(first.step limits).state, later⟩ polls step) :
      Waits options started limits first (first :: polls) step

namespace Cnc

/-- The questions of a wait from a first one on. -/
def inquiries
    (options : WaitOptions)
    (started : Nat)
    (deadline : Option Nat)
    (cnc : Cnc Stream)
    (clock : Clock) :
    List (Inquiry Stream) :=
  if options.heedsToken && clock.isCancelled then
    []
  else
    let polled := cnc.poll ⟨deadline, options.heedsToken⟩ clock
    match _answer : polled.result, waitPause options started polled.clock with
    | .ok true, .ok later =>
      ⟨cnc, clock⟩ :: inquiries options started deadline polled.state later
    | _, _ => [⟨cnc, clock⟩]
termination_by ByteStream.supply cnc.device.session.stream
decreasing_by
  exact supply_poll_lt cnc _ _ true (by assumption)

/-- One round of `waitFrom`. -/
theorem waitFrom_eq
    (options : WaitOptions)
    (started : Nat)
    (deadline : Option Nat)
    (first : Inquiry Stream) :
    waitFrom options started deadline first.cnc first.clock =
      if options.heedsToken && first.clock.isCancelled then
        ⟨.error .cancelled, first.cnc, first.clock⟩
      else
        let polled := first.step ⟨deadline, options.heedsToken⟩
        match polled.result with
        | .error error => ⟨.error (waitError options error), polled.state, polled.clock⟩
        | .ok false => ⟨.ok (), polled.state, polled.clock⟩
        | .ok true =>
          match waitPause options started polled.clock with
          | .error error => ⟨.error error, polled.state, polled.clock⟩
          | .ok later => waitFrom options started deadline polled.state later := by
  rw [waitFrom]
  split
  · rfl
  · dsimp only [Inquiry.step]
    split
    next answer => simp only [answer]
    next answer => simp only [answer]
    next answer =>
      cases waitPause options started
          (first.cnc.poll ⟨deadline, options.heedsToken⟩ first.clock).clock <;>
        simp only [answer]

/-- One round of the questions. -/
theorem inquiries_eq
    (options : WaitOptions)
    (started : Nat)
    (deadline : Option Nat)
    (first : Inquiry Stream) :
    inquiries options started deadline first.cnc first.clock =
      if options.heedsToken && first.clock.isCancelled then
        []
      else
        let polled := first.step ⟨deadline, options.heedsToken⟩
        match polled.result, waitPause options started polled.clock with
        | .ok true, .ok later => first :: inquiries options started deadline polled.state later
        | _, _ => [first] := by
  rw [inquiries]
  split
  · rfl
  · dsimp only [Inquiry.step]
    split
    next answer pause => simp only [answer, pause]
    next final =>
      split
      next answer pause => exact (final _ answer pause).elim
      next => rfl

/-- Every wait asks its questions one after the other. -/
theorem waits_waitFrom
    (options : WaitOptions)
    (started : Nat)
    (deadline : Option Nat)
    (first : Inquiry Stream) :
    Waits options started ⟨deadline, options.heedsToken⟩ first
      (inquiries options started deadline first.cnc first.clock)
      (waitFrom options started deadline first.cnc first.clock) := by
  -- The supply of the stream bounds the number of answers.
  induction size : ByteStream.supply first.cnc.device.session.stream using Nat.strongRecOn
    generalizing first with
  | ind size induction =>
    rw [waitFrom_eq, inquiries_eq]
    by_cases cancelled : (options.heedsToken && first.clock.isCancelled) = true
    · rw [if_pos cancelled, if_pos cancelled]
      rw [Bool.and_eq_true] at cancelled
      exact .cancelled cancelled.1 cancelled.2
    · rw [if_neg cancelled, if_neg cancelled]
      cases answer : (first.step ⟨deadline, options.heedsToken⟩).result with
      | error error =>
        simp only [answer]
        exact .ended (.failed (Inquiry.answer_eq_error_iff.mpr answer))
      | ok busy =>
        cases busy with
        | false =>
          simp only [answer]
          exact .ended (.idle (Inquiry.isIdle_iff.mpr answer))
        | true =>
          have asked := Inquiry.isBusy_iff.mpr answer
          have less := supply_poll_lt first.cnc _ first.clock true answer
          cases pause : waitPause options started
              (first.step ⟨deadline, options.heedsToken⟩).clock with
          | error error =>
            simp only [answer, pause]
            exact .ended (.stopped asked pause)
          | ok later =>
            simp only [answer, pause]
            exact .resumed asked pause (induction _ (size ▸ less) ⟨_, later⟩ rfl)

/-- The questions of a wait; there are none if its deadline is beyond the range of instants. -/
def asked (cnc : Cnc Stream) (options : WaitOptions) (clock : Clock) : List (Inquiry Stream) :=
  if options.IsNamed clock then
    inquiries options clock.now (options.deadline clock) cnc clock
  else
    []

theorem wait_of_isNamed
    (cnc : Cnc Stream)
    {options : WaitOptions}
    {clock : Clock}
    (named : options.IsNamed clock) :
    cnc.asked options clock = inquiries options clock.now (options.deadline clock) cnc clock ∧
      cnc.wait options clock =
        waitFrom options clock.now (options.deadline clock) cnc clock := by
  refine ⟨if_pos named, ?_⟩
  rw [wait]
  cases set : options.timeout with
  | none => simp [WaitOptions.deadline, set]
  | some timeout =>
    have inRange := named (clock.now + timeout.nanoseconds) (by simp [WaitOptions.deadline, set])
    simp [WaitOptions.deadline, set, inRange]

theorem waits_wait
    (cnc : Cnc Stream)
    {options : WaitOptions}
    {clock : Clock}
    (named : options.IsNamed clock) :
    Waits options clock.now (options.limits clock) ⟨cnc, clock⟩ (cnc.asked options clock)
      (cnc.wait options clock) := by
  rcases cnc.wait_of_isNamed named with ⟨asks, waits⟩
  rw [asks, waits]
  exact waits_waitFrom options clock.now (options.deadline clock) ⟨cnc, clock⟩

theorem wait_of_not_isNamed
    (cnc : Cnc Stream)
    {options : WaitOptions}
    {clock : Clock}
    (unnamed : ¬ options.IsNamed clock) :
    cnc.asked options clock = [] ∧
      cnc.wait options clock = ⟨.error .clockOverflow, cnc, clock⟩ := by
  refine ⟨if_neg unnamed, ?_⟩
  rw [wait]
  cases set : options.timeout with
  | none => exact (unnamed (by simp [WaitOptions.IsNamed, WaitOptions.deadline, set])).elim
  | some timeout =>
    have beyond : ¬ clock.now + timeout.nanoseconds < Clock.range := by
      simpa [WaitOptions.IsNamed, WaitOptions.deadline, set] using unnamed
    simp [beyond, Step.refuse]

end Cnc

end RoverLink
