import RoverLink.Cnc.Wait
import RoverLink.Proofs.Codec.Requests
import RoverLink.Proofs.Device.Task
import RoverLink.Proofs.Session.Halting

/-!
# The question whether a board is busy

An `Inquiry` is one question with the board and the clock at which it is asked.
It is answered if its request succeeds and the first value of the reply is an
integer; the board is idle if this integer is zero, and busy otherwise.
-/

namespace RoverLink

/-- A board that is asked whether it is busy, and when it is asked. -/
structure Inquiry (Stream : Type) where
  cnc : Cnc Stream
  clock : Clock

namespace Inquiry

variable {Stream : Type} [ByteStream Stream]

/-! ### Answers -/

/-- The request with which the board is asked. -/
def request (inquiry : Inquiry Stream) (limits : Limits) : Step (Device Stream CncConfig) Reply :=
  inquiry.cnc.device.executeWithin Cnc.pollCommand limits inquiry.clock

/-- The integer that the board answers. -/
def answer (inquiry : Inquiry Stream) (limits : Limits) : Except Error Int64 :=
  match (inquiry.request limits).result with
  | .ok reply => reply.integer 0
  | .error error => .error error

/-- The motion state after the answer. -/
def stateAfter (inquiry : Inquiry Stream) (limits : Limits) : CncState :=
  match inquiry.answer limits with
  | .ok value => inquiry.cnc.state.afterPoll (value != 0)
  | .error _ => inquiry.cnc.state

/-- The step of the question. -/
def step (inquiry : Inquiry Stream) (limits : Limits) : Step (Cnc Stream) Bool :=
  inquiry.cnc.poll limits inquiry.clock

theorem step_eq (inquiry : Inquiry Stream) (limits : Limits) :
    inquiry.step limits =
      ⟨(inquiry.answer limits).map (· != 0),
        ⟨(inquiry.request limits).state, inquiry.stateAfter limits⟩,
        (inquiry.request limits).clock⟩ := by
  simp only [step, Cnc.poll, stateAfter, answer, request]
  cases (inquiry.cnc.device.executeWithin Cnc.pollCommand limits inquiry.clock).result with
  | error error => rfl
  | ok reply =>
    dsimp only
    cases reply.integer 0 <;> rfl

theorem of_answer_eq_ok
    {inquiry : Inquiry Stream}
    {limits : Limits}
    {value : Int64}
    (answered : inquiry.answer limits = .ok value) :
    ∃ reply, (inquiry.request limits).result = .ok reply ∧ reply.integer 0 = .ok value := by
  rw [answer] at answered
  split at answered
  next reply succeeded => exact ⟨reply, succeeded, answered⟩
  next => simp at answered

/-- A request that gives a reply was answered with success. -/
theorem status_of_request
    {inquiry : Inquiry Stream}
    {limits : Limits}
    {reply : Reply}
    (succeeded : (inquiry.request limits).result = .ok reply) :
    reply.status = 0 := by
  rw [request, Device.executeWithin] at succeeded
  split at succeeded
  · have concluded := inquiry.cnc.device.concluded_transmit .order Cnc.pollCommand limits
      inquiry.clock
    rw [succeeded] at concluded
    generalize List.getLast? _ = last at concluded
    cases concluded with
    | success status => exact status
  · simp [Step.refuse] at succeeded

/-- Whether the board answers with success and another integer than zero. -/
def IsBusy (inquiry : Inquiry Stream) (limits : Limits) : Prop :=
  ∃ reply value, (inquiry.request limits).result = .ok reply ∧ reply.status = 0 ∧
    reply.integer 0 = .ok value ∧ value ≠ 0

/-- Whether the board answers with success and the integer zero. -/
def IsIdle (inquiry : Inquiry Stream) (limits : Limits) : Prop :=
  ∃ reply, (inquiry.request limits).result = .ok reply ∧ reply.status = 0 ∧
    reply.integer 0 = .ok 0

theorem isBusy_iff {inquiry : Inquiry Stream} {limits : Limits} :
    inquiry.IsBusy limits ↔ (inquiry.step limits).result = .ok true := by
  rw [step_eq]
  constructor
  · rintro ⟨reply, value, succeeded, _, answered, nonzero⟩
    simp [answer, succeeded, answered, nonzero, Except.map]
  · intro busy
    cases answered : inquiry.answer limits with
    | error error => simp [answered, Except.map] at busy
    | ok value =>
      rcases of_answer_eq_ok answered with ⟨reply, succeeded, first⟩
      refine ⟨reply, value, succeeded, status_of_request succeeded, first, ?_⟩
      simpa [answered, Except.map] using busy

theorem isIdle_iff {inquiry : Inquiry Stream} {limits : Limits} :
    inquiry.IsIdle limits ↔ (inquiry.step limits).result = .ok false := by
  rw [step_eq]
  constructor
  · rintro ⟨reply, succeeded, _, answered⟩
    simp [answer, succeeded, answered, Except.map]
  · intro idle
    cases answered : inquiry.answer limits with
    | error error => simp [answered, Except.map] at idle
    | ok value =>
      rcases of_answer_eq_ok answered with ⟨reply, succeeded, first⟩
      have zero : value = 0 := by simpa [answered, Except.map] using idle
      exact ⟨reply, succeeded, status_of_request succeeded, zero ▸ first⟩

theorem not_isBusy_of_isIdle
    {inquiry : Inquiry Stream}
    {limits : Limits}
    (idle : inquiry.IsIdle limits) :
    ¬ inquiry.IsBusy limits := by
  rw [isBusy_iff, isIdle_iff.mp idle]
  simp

theorem answer_eq_error_iff
    {inquiry : Inquiry Stream}
    {limits : Limits}
    {error : Error} :
    inquiry.answer limits = .error error ↔ (inquiry.step limits).result = .error error := by
  rw [step_eq]
  cases inquiry.answer limits <;> simp [Except.map]

/-- The limits are blamed for an error only if they brought it about. -/
theorem blames_answer
    {inquiry : Inquiry Stream}
    {limits : Limits}
    {error : Error}
    (failed : inquiry.answer limits = .error error) :
    Session.Blames limits inquiry.clock.now (inquiry.step limits).clock error := by
  rw [step_eq]
  simp only [answer, request, Device.executeWithin] at failed ⊢
  split at failed
  next reply succeeded =>
    apply Session.Blames.of_isVerdict
    simp only [Reply.integer, Reply.number] at failed
    split at failed
    next missing =>
      split at missing
      · simp at missing
      · cases missing
        cases failed
        rfl
    next =>
      split at failed
      · simp at failed
      · cases failed
        rfl
  next reason refused =>
    cases failed
    split
    next configured =>
      rw [if_pos configured] at refused
      exact Session.blames_sendWithin refused
    next unconfigured =>
      rw [if_neg unconfigured] at refused
      cases refused
      exact ⟨by simp [Error.isLimit, Error.isTimeout, Error.isCancelled], by simp⟩

/-- The motion state that a question left, if it was answered. -/
def stateLeft? (inquiry : Inquiry Stream) (limits : Limits) : Option CncState :=
  match (inquiry.step limits).result with
  | .ok _ => some (inquiry.step limits).state.state
  | .error _ => none

/-- A question that is not answered leaves the motion state as it is. -/
theorem getD_stateLeft?
    (inquiry : Inquiry Stream)
    (limits : Limits) :
    (inquiry.stateLeft? limits).getD inquiry.cnc.state = (inquiry.step limits).state.state := by
  rw [stateLeft?, step_eq, stateAfter]
  cases inquiry.answer limits <;> rfl

/-! ### What is written and read -/

/-- The frame with which the board is asked. -/
def frame (inquiry : Inquiry Stream) : List Char :=
  (inquiry.cnc.device.session.codec.encode Cnc.pollCommand).1

/-- How the attempts of the request ended. -/
def attempts (inquiry : Inquiry Stream) (limits : Limits) : List Ending :=
  if inquiry.cnc.device.isConfigured then
    inquiry.cnc.device.session.attempts Cnc.pollCommand limits inquiry.clock
  else
    []

/-- What is to be written for the question. -/
def transfers (inquiry : Inquiry Stream) (limits : Limits) : List Transfer :=
  (inquiry.attempts limits).map (Ending.transfer (Text.Utf8.encode inquiry.frame))

/-- The moments of a question. -/
def journal (inquiry : Inquiry Stream) (limits : Limits) : List Moment :=
  if inquiry.cnc.device.isConfigured then
    inquiry.cnc.device.session.journal Cnc.pollCommand limits inquiry.clock
  else
    []

theorem records_step
    (inquiry : Inquiry (Logged Stream))
    (limits : Limits) :
    Records limits inquiry.cnc.device.session.stream inquiry.clock (inquiry.journal limits)
      (inquiry.step limits).state.device.session.stream (inquiry.step limits).clock := by
  rw [step_eq, journal]
  simp only [request, Device.executeWithin]
  split
  · exact Session.records_sendWithin inquiry.cnc.device.session _ _ _
  · exact .nil limits _ (.refl _)

theorem precedes_step (inquiry : Inquiry (Logged Stream)) (limits : Limits) :
    inquiry.clock.Precedes (inquiry.step limits).clock :=
  (inquiry.records_step limits).timeline.precedes

end Inquiry

end RoverLink
