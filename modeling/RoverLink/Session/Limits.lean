import RoverLink.Error
import RoverLink.Time.Clock
import RoverLink.Word

/-!
# Limits of a call

A caller may set a deadline and may hand over a token.  Both are looked at between the steps of a
call, the token first, and neither interrupts a step that is under way.
-/

namespace RoverLink

/-- The bounds that a caller sets for one call. -/
structure Limits where
  /-- The instant from which on the call is too late. -/
  deadline : Option Nat
  /-- Whether the call ends when the caller's token is cancelled. -/
  heedsToken : Bool
  deriving DecidableEq, Repr

namespace Limits

def none : Limits :=
  ⟨.none, false⟩

/-- Why a call that started at an instant has to end now, if it has to. -/
def exceeded? (limits : Limits) (started : Nat) (clock : Clock) : Option Error :=
  if limits.heedsToken && clock.isCancelled then
    some .cancelled
  else if limits.deadline.any fun deadline => deadline ≤ clock.now then
    some (.timeout ((clock.now - started) / 1000000 % Word.count64))
  else
    .none

/-- The clock after a sleep that ends at the deadline at the latest, if its end can be named. -/
def sleep (limits : Limits) (nanoseconds : Nat) (clock : Clock) : Option Clock :=
  let allowed :=
    match limits.deadline with
    | some deadline => min nanoseconds (deadline - clock.now)
    | .none => nanoseconds
  clock.sleep limits.heedsToken allowed

/-- The first instant at which a wait until `latest` has to be looked at. -/
def wakeUp (limits : Limits) (latest : Nat) (clock : Clock) : Nat :=
  let beforeDeadline := (limits.deadline.map (min latest)).getD latest
  if limits.heedsToken then
    (clock.cancelledFrom.map (min beforeDeadline)).getD beforeDeadline
  else
    beforeDeadline

end Limits

end RoverLink
