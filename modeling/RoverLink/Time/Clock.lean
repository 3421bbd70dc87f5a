/-!
# The clock and the caller's token

All waiting of the library happens on a clock that is part of the state: an instant is a count of
nanoseconds, and waiting moves the clock to a later one.  The caller may hand over a token with
which to cancel an operation; the clock knows the instant from which on the token is cancelled, so a
cancellation can fall into the middle of a wait.

Instants are kept with 64 bits for their seconds.  An operation that has to name an instant beyond
that range fails.
-/

namespace RoverLink

/-- The current instant, and the instant from which on the caller's token is cancelled. -/
structure Clock where
  now : Nat
  /-- From when on the token is cancelled, if it ever is. -/
  cancelledFrom : Option Nat
  deriving DecidableEq, Repr

/-- The time that passes while a stream is at work, beyond what its work itself takes. -/
inductive Lapse where
  | none
  | span (nanoseconds : Nat)
  /-- More than is allowed for the reply that is being waited for. -/
  | pastReplyTimeout
  /-- All the time up to the deadline of the caller. -/
  | pastDeadline
  deriving DecidableEq, Repr

namespace Clock

/-- The clock at its start, with a token that is not cancelled. -/
def start : Clock :=
  ⟨0, none⟩

/-- The end of the range of instants. -/
def range : Nat :=
  0x8000000000000000 * 1000000000

def isCancelled (clock : Clock) : Bool :=
  clock.cancelledFrom.any fun instant => instant ≤ clock.now

/-- The clock at an instant, or as it is if that instant has passed. -/
def advanceTo (instant : Nat) (clock : Clock) : Clock :=
  { clock with now := max clock.now instant }

def advance (nanoseconds : Nat) (clock : Clock) : Clock :=
  { clock with now := clock.now + nanoseconds }

def cancel (clock : Clock) : Clock :=
  if clock.isCancelled then clock else { clock with cancelledFrom := some clock.now }

/-- The clock with a token that is cancelled from an instant on, unless it is before. -/
def cancelFrom (instant : Nat) (clock : Clock) : Clock :=
  { clock with cancelledFrom := some ((clock.cancelledFrom.map (min instant)).getD instant) }

def renewToken (clock : Clock) : Clock :=
  { clock with cancelledFrom := none }

/--
The clock after a lapse, for a reply that is allowed to take until `replyEnd` and a caller that
waits until `deadline`.
-/
def pass (lapse : Lapse) (replyEnd deadline : Option Nat) (clock : Clock) : Clock :=
  match lapse with
  | .none => clock
  | .span nanoseconds => clock.advance nanoseconds
  | .pastReplyTimeout => (replyEnd.map (clock.advanceTo <| · + 1)).getD clock
  | .pastDeadline => (deadline.map (clock.advanceTo ·)).getD clock

/--
The clock after a sleep, which a token that is heeded ends early.  A heeded sleep names the instant
of its end and fails if that instant is out of range.
-/
def sleep (heedsToken : Bool) (nanoseconds : Nat) (clock : Clock) : Option Clock :=
  if heedsToken then
    if clock.isCancelled then
      some clock
    else if clock.now + nanoseconds < range then
      let finish := clock.now + nanoseconds
      some (clock.advanceTo ((clock.cancelledFrom.map (min finish)).getD finish))
    else
      none
  else
    some (clock.advance nanoseconds)

theorem isCancelled_iff {clock : Clock} :
    clock.isCancelled = true ↔
      ∃ instant, clock.cancelledFrom = some instant ∧ instant ≤ clock.now := by
  simp [isCancelled, Option.any_eq_true]

@[simp]
theorem now_cancel (clock : Clock) : clock.cancel.now = clock.now := by
  rw [cancel]
  split <;> rfl

@[simp]
theorem isCancelled_cancel (clock : Clock) : clock.cancel.isCancelled = true := by
  rw [cancel]
  split
  next cancelled => exact cancelled
  next => simp [isCancelled]

end Clock

end RoverLink
