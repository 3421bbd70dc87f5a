import RoverLink.Cnc
import RoverLink.Session.Supply

/-!
# Waiting for the end of a motion

`wait` asks a stepper board again and again whether it is busy, with a pause after each answer,
until the board is idle, the time allowed is over, or the caller's token is cancelled.  Each answer
uses up a part of the supply of the stream, so the questions come to an end.
-/

namespace RoverLink

/-- How to wait for the end of a motion. -/
structure WaitOptions where
  pollInterval : Span
  timeout : Option Span
  heedsToken : Bool
  deriving DecidableEq, Repr

/-- One second between two questions, and no limit. -/
def WaitOptions.standard : WaitOptions :=
  ⟨.ofMilliseconds 1000, none, false⟩

namespace Cnc

variable {Stream : Type} [ByteStream Stream]

/-- The error of a wait that took too long: it tells the time allowed. -/
def waitedTooLong (options : WaitOptions) : Error :=
  .timeout ((options.timeout.map Span.milliseconds).getD 0)

/-- The error with which a failed question ends the wait. -/
def waitError (options : WaitOptions) (error : Error) : Error :=
  if error.isTimeout then waitedTooLong options else error

/-- The clock after the pause that follows an answer, or why there is no pause. -/
def waitPause (options : WaitOptions) (started : Nat) (clock : Clock) : Except Error Clock :=
  let elapsed := clock.now - started
  let pause : Option Nat :=
    match options.timeout with
    | none => some options.pollInterval.nanoseconds
    | some timeout =>
      if timeout.nanoseconds ≤ elapsed then none
      else some (min options.pollInterval.nanoseconds (timeout.nanoseconds - elapsed))
  match pause with
  | none => .error (waitedTooLong options)
  | some nanoseconds =>
    match clock.sleep options.heedsToken nanoseconds with
    | some clock => .ok clock
    | none => .error .clockOverflow

/-- An answered question uses up a part of the supply. -/
theorem supply_poll_lt
    (cnc : Cnc Stream)
    (limits : Limits)
    (clock : Clock)
    (busy : Bool)
    (answered : (cnc.poll limits clock).result = .ok busy) :
    ByteStream.supply (cnc.poll limits clock).state.device.session.stream <
      ByteStream.supply cnc.device.session.stream := by
  revert answered
  rw [poll]
  simp only
  split
  · simp
  next reply settled =>
    have less : ByteStream.supply
        (cnc.device.executeWithin pollCommand limits clock).state.session.stream <
          ByteStream.supply cnc.device.session.stream := by
      revert settled
      rw [Device.executeWithin]
      split
      · exact (Session.supply_sendWithin cnc.device.session pollCommand limits clock).2 reply
      · simp [Step.refuse]
    split
    · simp
    · exact fun _ => less

/-- Ask until the board is idle or the wait has to end. -/
def waitFrom
    (options : WaitOptions)
    (started : Nat)
    (deadline : Option Nat)
    (cnc : Cnc Stream)
    (clock : Clock) :
    Step (Cnc Stream) Unit :=
  if options.heedsToken && clock.isCancelled then
    ⟨.error .cancelled, cnc, clock⟩
  else
    let polled := cnc.poll ⟨deadline, options.heedsToken⟩ clock
    match _answer : polled.result with
    | .error error => ⟨.error (waitError options error), polled.state, polled.clock⟩
    | .ok false => ⟨.ok (), polled.state, polled.clock⟩
    | .ok true =>
      match waitPause options started polled.clock with
      | .error error => ⟨.error error, polled.state, polled.clock⟩
      | .ok clock => waitFrom options started deadline polled.state clock
termination_by ByteStream.supply cnc.device.session.stream
decreasing_by
  exact supply_poll_lt cnc _ _ true (by assumption)

def wait (cnc : Cnc Stream) (options : WaitOptions) (clock : Clock) : Step (Cnc Stream) Unit :=
  match options.timeout with
  | none => waitFrom options clock.now none cnc clock
  | some timeout =>
    let deadline := clock.now + timeout.nanoseconds
    if deadline < Clock.range then waitFrom options clock.now (some deadline) cnc clock
    else .refuse .clockOverflow cnc clock

end Cnc

end RoverLink
