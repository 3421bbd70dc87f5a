import RoverLink.Session.Limits
import RoverLink.Stream

/-!
# The order of time

Time does not go back, and a token that is cancelled stays cancelled.  `Precedes`
says both of two clocks.  Every step of the library leads to a clock that the
one before it precedes, so a limit that has been reached stays reached
(`Limits.IsReached.mono`).
-/

namespace RoverLink

namespace Clock

/-- Whether a clock can be shown after another one. -/
structure Precedes (earlier later : Clock) : Prop where
  now : earlier.now ≤ later.now
  isCancelled : earlier.isCancelled = true → later.isCancelled = true

@[refl]
theorem Precedes.refl (clock : Clock) : clock.Precedes clock :=
  ⟨Nat.le_refl _, id⟩

theorem Precedes.trans
    {first second third : Clock}
    (left : first.Precedes second)
    (right : second.Precedes third) :
    first.Precedes third :=
  ⟨Nat.le_trans left.now right.now, fun cancelled => right.isCancelled (left.isCancelled cancelled)⟩

/-- A clock precedes every later time with the same token. -/
theorem precedes_of_le
    {clock : Clock}
    {instant : Nat}
    (later : clock.now ≤ instant) :
    clock.Precedes { clock with now := instant } := by
  refine ⟨later, fun cancelled => ?_⟩
  rcases isCancelled_iff.mp cancelled with ⟨from', is, reached⟩
  exact isCancelled_iff.mpr ⟨from', is, Nat.le_trans reached later⟩

theorem precedes_advanceTo (instant : Nat) (clock : Clock) :
    clock.Precedes (clock.advanceTo instant) :=
  precedes_of_le (Nat.le_max_left ..)

theorem precedes_advance (nanoseconds : Nat) (clock : Clock) :
    clock.Precedes (clock.advance nanoseconds) :=
  precedes_of_le (Nat.le_add_right ..)

theorem precedes_cancel (clock : Clock) : clock.Precedes clock.cancel :=
  ⟨Nat.le_of_eq clock.now_cancel.symm, fun _ => clock.isCancelled_cancel⟩

theorem precedes_pass
    (lapse : Lapse)
    (replyEnd deadline : Option Nat)
    (clock : Clock) :
    clock.Precedes (clock.pass lapse replyEnd deadline) := by
  cases lapse with
  | none => exact .refl clock
  | span nanoseconds => exact clock.precedes_advance nanoseconds
  | pastReplyTimeout =>
    cases replyEnd with
    | none => exact .refl clock
    | some instant => exact clock.precedes_advanceTo (instant + 1)
  | pastDeadline =>
    cases deadline with
    | none => exact .refl clock
    | some instant => exact clock.precedes_advanceTo instant

theorem precedes_sleep
    {heedsToken : Bool}
    {nanoseconds : Nat}
    {clock later : Clock}
    (slept : clock.sleep heedsToken nanoseconds = some later) :
    clock.Precedes later := by
  rw [sleep] at slept
  split at slept
  · split at slept
    · cases slept
      exact .refl clock
    · split at slept
      · cases slept
        exact clock.precedes_advanceTo _
      · simp at slept
  · cases slept
    exact clock.precedes_advance nanoseconds

end Clock

theorem Response.precedes_clockAfter
    {Stream Outcome : Type}
    (response : Response Stream Outcome)
    (replyEnd deadline : Option Nat)
    (clock : Clock) :
    clock.Precedes (response.clockAfter replyEnd deadline clock) := by
  have passed := clock.precedes_pass response.lapse replyEnd deadline
  rw [clockAfter]
  split
  · exact passed.trans (Clock.precedes_cancel _)
  · exact passed

/-! ### Limits -/

namespace Limits

/-- Whether a call has to end: its token is cancelled, or its deadline has come. -/
def IsReached (limits : Limits) (clock : Clock) : Prop :=
  limits.heedsToken = true ∧ clock.isCancelled = true ∨
    ∃ deadline, limits.deadline = some deadline ∧ deadline ≤ clock.now

/-- A limit that has been reached stays reached. -/
theorem IsReached.mono
    {limits : Limits}
    {earlier later : Clock}
    (reached : limits.IsReached earlier)
    (precedes : earlier.Precedes later) :
    limits.IsReached later := by
  rcases reached with ⟨heeds, cancelled⟩ | ⟨deadline, set, passed⟩
  · exact .inl ⟨heeds, precedes.isCancelled cancelled⟩
  · exact .inr ⟨deadline, set, Nat.le_trans passed precedes.now⟩

theorem precedes_sleep
    {limits : Limits}
    {nanoseconds : Nat}
    {clock later : Clock}
    (slept : limits.sleep nanoseconds clock = some later) :
    clock.Precedes later := by
  rw [sleep] at slept
  exact Clock.precedes_sleep slept

/-- The error of a limit: a cancelled token comes before a deadline. -/
inductive Excess (limits : Limits) (started : Nat) (clock : Clock) : Error → Prop where
  | cancelled
      (heeds : limits.heedsToken = true)
      (cancelled : clock.isCancelled = true) :
      Excess limits started clock .cancelled
  | timeout {deadline : Nat}
      (uncancelled : (limits.heedsToken && clock.isCancelled) = false)
      (set : limits.deadline = some deadline)
      (passed : deadline ≤ clock.now) :
      Excess limits started clock
        (.timeout ((clock.now - started) / 1000000 % Word.count64))

theorem Excess.isReached
    {limits : Limits}
    {started : Nat}
    {clock : Clock}
    {error : Error}
    (excess : limits.Excess started clock error) :
    limits.IsReached clock := by
  cases excess with
  | cancelled heeds cancelled => exact .inl ⟨heeds, cancelled⟩
  | timeout _ set passed => exact .inr ⟨_, set, passed⟩

theorem exceeded?_eq_some_iff
    {limits : Limits}
    {started : Nat}
    {clock : Clock}
    {error : Error} :
    limits.exceeded? started clock = some error ↔ limits.Excess started clock error := by
  rw [exceeded?]
  constructor
  · intro exceeded
    split at exceeded
    next cancelled =>
      cases exceeded
      rw [Bool.and_eq_true] at cancelled
      exact .cancelled cancelled.1 cancelled.2
    next uncancelled =>
      split at exceeded
      next passed =>
        cases exceeded
        simp only [Option.any_eq_true, decide_eq_true_eq] at passed
        rcases passed with ⟨deadline, set, passed⟩
        exact .timeout (Bool.eq_false_iff.mpr uncancelled) set passed
      next => simp at exceeded
  · intro excess
    cases excess with
    | cancelled heeds cancelled => simp [heeds, cancelled]
    | timeout uncancelled set passed => simp [uncancelled, set, passed]

theorem exceeded?_eq_none_iff
    {limits : Limits}
    {started : Nat}
    {clock : Clock} :
    limits.exceeded? started clock = .none ↔ ¬ limits.IsReached clock := by
  constructor
  · rintro within (⟨heeds, cancelled⟩ | ⟨deadline, set, passed⟩)
    · simp [exceeded?, heeds, cancelled] at within
    · rw [exceeded?] at within
      split at within
      · cases within
      · simp [set, passed] at within
  · intro unreached
    rw [Option.eq_none_iff_forall_ne_some]
    intro error exceeded
    exact unreached (exceeded?_eq_some_iff.mp exceeded).isReached

end Limits

end RoverLink
