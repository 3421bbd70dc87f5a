import RoverLink.Proofs.Session.Attempts

/-!
# The last attempt of a request

The last attempt decides the result of a request.  The request succeeds exactly
if this attempt was answered with the status zero, and it ends with an error of
the device exactly if this attempt was answered with a positive status
(`concluded_sendWithin`).  All other errors come from a limit, from the link, or
from a frame that gives no reply (`explains_awaitReply`).
-/

namespace RoverLink

/-- How a request ends after its last attempt, if it made one. -/
inductive Concluded : Option Ending → Except Error Reply → Prop where
  | success {reply : Reply}
      (status : reply.status = 0) :
      Concluded (some (.awaited (.reply reply))) (.ok reply)
  | refusal {reply : Reply}
      (status : 0 < reply.status) :
      Concluded (some (.awaited (.reply reply)))
        (.error (.deviceError reply.status reply.message))
  /-- No reply but a transient one was received, and the error does not come from the device. -/
  | failure {last : Option Ending} {error : Error}
      (unanswered : ∀ reply, last = some (.awaited (.reply reply)) → reply.status < 0)
      (code : error.deviceCode = none) :
      Concluded last (.error error)

/-- Whether an error tells that the link failed or that a frame gave no reply. -/
def Error.isReception : Error → Bool
  | .malformedReply _ _ => true
  | .linkLost _ => true
  | _ => false

theorem Error.deviceCode_of_isReception
    {error : Error}
    (reception : error.isReception = true) :
    error.deviceCode = none := by
  cases error <;> simp_all [isReception, deviceCode]

theorem Limits.Excess.deviceCode
    {limits : Limits}
    {started : Nat}
    {clock : Clock}
    {error : Error}
    (excess : limits.Excess started clock error) :
    error.deviceCode = .none := by
  cases excess <;> rfl

theorem Limits.deviceCode_of_exceeded?_eq_some
    {limits : Limits}
    {started : Nat}
    {clock : Clock}
    {error : Error}
    (exceeded : limits.exceeded? started clock = some error) :
    error.deviceCode = .none :=
  (exceeded?_eq_some_iff.mp exceeded).deviceCode

/-! ### Endings -/

/-- The error with which a wait ended, if it ended with one. -/
def Awaited.error? : Awaited → Option Error
  | .interrupted error => some error
  | .failed error => some error
  | _ => none

/-- A wait that ends with an error does not end with an error of the device. -/
def Awaited.IsLocal (awaited : Awaited) : Prop :=
  ∀ error, awaited.error? = some error → error.deviceCode = none

namespace Ending

theorem concluded
    {ending : Ending}
    {result : Except Error Reply}
    (settled : ending.result? = some result)
    (isLocal : ∀ awaited, ending = .awaited awaited → awaited.IsLocal) :
    Concluded (some ending) result := by
  rcases ending with error | awaited
  · cases settled
    exact .failure (by simp) rfl
  · have isLocal := isLocal awaited rfl
    cases awaited with
    | reply reply =>
      simp only [result?, StatusClass.ofStatus] at settled
      by_cases success : reply.status = 0
      · rw [if_pos success] at settled
        cases settled
        exact .success success
      · rw [if_neg success] at settled
        by_cases negative : reply.status < 0
        · simp [negative] at settled
        · rw [if_neg negative] at settled
          cases settled
          exact .refusal (by grind)
    | abandoned => simp [result?] at settled
    | interrupted error =>
      cases settled
      exact .failure (by simp) (isLocal error rfl)
    | failed error =>
      cases settled
      exact .failure (by simp) (isLocal error rfl)

theorem status_of_result?_eq_none
    {reply : Reply}
    (unsettled : (Ending.awaited (.reply reply)).result? = none) :
    reply.status < 0 := by
  simp only [result?, StatusClass.ofStatus] at unsettled
  by_cases success : reply.status = 0
  · simp [success] at unsettled
  · by_cases negative : reply.status < 0
    · exact negative
    · simp [success, negative] at unsettled

end Ending

namespace Session

variable {Stream : Type} [ByteStream Stream]

/-! ### One attempt -/

/-- What the errors with which a wait ends say. -/
structure Waiting.Explains (waiting : Waiting) (waited : Waited Stream) : Prop where
  /-- The wait is interrupted by the limit that has been reached at its end. -/
  interrupted : ∀ error, waited.awaited = .interrupted error →
    waiting.limits.Excess waiting.started waited.clock error
  /-- It fails only through the link or through a frame that gives no reply. -/
  failed : ∀ error, waited.awaited = .failed error → error.isReception = true

omit [ByteStream Stream] in
theorem Waiting.explains_expired
    (waiting : Waiting)
    (stream : Stream)
    (clock : Clock) :
    waiting.Explains ⟨waiting.expired clock, stream, clock⟩ := by
  rw [expired]
  split
  next error exceeded =>
    refine ⟨?_, by simp⟩
    intro other same
    cases same
    exact Limits.exceeded?_eq_some_iff.mp exceeded
  next => exact ⟨by simp, by simp⟩

omit [ByteStream Stream] in
theorem Waiting.explains_of_endedBy?_eq_some
    {waiting : Waiting}
    {outcome : ReadOutcome}
    {awaited : Awaited}
    (ended : waiting.endedBy? outcome = some awaited)
    (stream : Stream)
    (clock : Clock) :
    waiting.Explains ⟨awaited, stream, clock⟩ := by
  cases outcome with
  | line text =>
    simp only [endedBy?] at ended
    split at ended
    · simp at ended
    all_goals
      cases ended
      exact ⟨by simp, by simp [DecodeError.toError, Error.isReception]⟩
  | nothing => simp [endedBy?] at ended
  | quiet => simp [endedBy?] at ended
  | failed error =>
    simp only [endedBy?] at ended
    split at ended
    · simp at ended
    · cases ended
      exact ⟨by simp, by simp [Error.isReception]⟩

theorem explains_awaitReply
    (waiting : Waiting)
    (stream : Stream)
    (clock : Clock) :
    waiting.Explains (awaitReply waiting stream clock) := by
  refine awaitReply_induction waiting
    (motive := fun _ _ waited => waiting.Explains waited)
    ?closed ?quiet ?ended ?passed stream clock
  case closed =>
    intro stream clock _
    exact waiting.explains_expired stream clock
  case quiet =>
    intro stream clock _ _
    exact waiting.explains_expired _ _
  case ended =>
    intro stream clock awaited _ _ ended
    exact Waiting.explains_of_endedBy?_eq_some ended _ _
  case passed =>
    intro stream clock waited _ _ _ induction
    exact induction

theorem isLocal_awaitReply
    (waiting : Waiting)
    (stream : Stream)
    (clock : Clock) :
    (awaitReply waiting stream clock).awaited.IsLocal := by
  have explains := explains_awaitReply waiting stream clock
  intro error ended
  cases awaited : (awaitReply waiting stream clock).awaited with
  | reply reply => simp [awaited, Awaited.error?] at ended
  | abandoned => simp [awaited, Awaited.error?] at ended
  | interrupted reason =>
    rw [awaited] at ended
    cases ended
    exact (explains.interrupted error awaited).deviceCode
  | failed reason =>
    rw [awaited] at ended
    cases ended
    exact Error.deviceCode_of_isReception (explains.failed error awaited)

theorem isLocal_exchange
    {session : Session Stream}
    {frame : List Char}
    {limits : Limits}
    {started : Nat}
    {clock : Clock}
    {awaited : Awaited}
    (ended : (session.exchange frame limits started clock).ending = .awaited awaited) :
    awaited.IsLocal := by
  simp only [exchange] at ended
  split at ended
  · simp at ended
  · cases ended
    exact isLocal_awaitReply _ _ _

/-! ### All attempts -/

theorem deviceCode_resumption
    {frame : List Char}
    {limits : Limits}
    {started : Nat}
    {policy : RetryPolicy}
    {done : Nat}
    {clock later : Clock}
    {error : Error}
    (stopped : resumption frame limits started policy done clock = (.error error, later)) :
    error.deviceCode = none := by
  have ways := resumption_cases frame limits started policy done clock
  rw [stopped] at ways
  cases ways with
  | exhausted _ => rfl
  | unnamed _ _ => rfl
  | limited _ _ excess => exact excess.deviceCode

theorem isReception_dropStale
    {session : Session Stream}
    {error : Error}
    (undropped : session.dropStale.1 = .error error) :
    error.isReception = true := by
  simp only [dropStale] at undropped
  split at undropped
  · split at undropped
    · simp at undropped
    · cases undropped
      rfl
  · simp at undropped

theorem concluded_sendFrame
    (frame : List Char)
    (limits : Limits)
    (started : Nat)
    (policy : RetryPolicy)
    (done : Nat)
    (session : Session Stream)
    (clock : Clock) :
    ∃ last,
      (endings frame limits started policy done session clock).getLast? = some last ∧
        Concluded (some last)
          (sendFrame frame limits started policy done session clock).result := by
  refine sendFrame_induction frame limits started policy
    (motive := fun _ _ _ step ended =>
      ∃ last, ended.getLast? = some last ∧ Concluded (some last) step.result)
    ?settled ?stopped ?resumed done session clock
  case settled =>
    intro done session clock result settled
    exact ⟨_, rfl, Ending.concluded settled fun _ => isLocal_exchange⟩
  case stopped =>
    intro done session clock error later unsettled stopped
    refine ⟨_, rfl, .failure ?_ (deviceCode_resumption stopped)⟩
    intro reply answered
    have answered : (session.exchange frame limits started clock).ending =
        .awaited (.reply reply) := Option.some.inj answered
    exact Ending.status_of_result?_eq_none (answered ▸ unsettled)
  case resumed =>
    intro done session clock later step rest _ _ induction
    rcases induction with ⟨last, final, concluded⟩
    exact ⟨last, by simp [List.getLast?_cons, final], concluded⟩

/-- The result of a request is what its last attempt says. -/
theorem concluded_sendWithin
    (session : Session Stream)
    (command : Command)
    (limits : Limits)
    (clock : Clock) :
    Concluded (session.attempts command limits clock).getLast?
      (session.sendWithin command limits clock).result := by
  refine sendWithin_cases session command limits clock
    (motive := fun step attempts => Concluded attempts.getLast? step.result)
    ?refused ?undropped ?dropped
  case refused =>
    intro error refused
    exact .failure (by simp) (Limits.deviceCode_of_exceeded?_eq_some refused)
  case undropped =>
    intro error _ undropped
    exact .failure (by simp) (Error.deviceCode_of_isReception (isReception_dropStale undropped))
  case dropped =>
    intro _ _
    rcases concluded_sendFrame (session.codec.encode command).1 limits clock.now
      session.config.retry 0 (session.numbered command).dropStale.2 clock with
        ⟨last, final, concluded⟩
    rw [final]
    exact concluded

end Session

end RoverLink
