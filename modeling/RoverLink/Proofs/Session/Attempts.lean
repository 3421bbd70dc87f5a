import RoverLink.Proofs.Session.Waiting
import RoverLink.Proofs.Time.Precedence

/-!
# The attempts of a request

An attempt either fails to write its request or waits for the reply and ends in
one of four ways.  `Ending` keeps this, and `exchange` is what an attempt does
to the stream and the clock.  What an attempt does to the rest of the session
depends on its ending alone (`attempt_eq`).

`endings` lists the endings of all attempts that `sendFrame` makes, and
`sendFrame_induction` goes over both.  The mark for stale input is read off this
list (`staleInput_sendFrame`).
-/

namespace RoverLink

/-- How an attempt ended. -/
inductive Ending where
  | unsent (error : IoError)
  /-- The request was written, and waiting for its reply ended. -/
  | awaited (awaited : Awaited)
  deriving DecidableEq, Repr

namespace Ending

/-- The result of the request, if the attempt settles it. -/
def result? : Ending → Option (Except Error Reply)
  | .unsent error => some (.error (.linkLost error.message))
  | .awaited (.reply reply) =>
    match StatusClass.ofStatus reply.status with
    | .success => some (.ok reply)
    | .fatal code => some (.error (.deviceError code reply.message))
    | .transient => none
  | .awaited .abandoned => none
  | .awaited (.interrupted error) => some (.error error)
  | .awaited (.failed error) => some (.error error)

/--
Whether waiting for the reply was given up: the time was over, the reply was
damaged, or a limit of the caller ended it.
-/
def isAbandoned : Ending → Bool
  | .awaited .abandoned => true
  | .awaited (.interrupted _) => true
  | _ => false

/-- Whether a reply was decoded and taken for the answer. -/
def isAnswered : Ending → Bool
  | .awaited (.reply _) => true
  | _ => false

/-- How many commands the attempt completed. -/
def completed (ending : Ending) : Nat :=
  match ending.result? with
  | some (.ok _) => 1
  | _ => 0

theorem isAbandoned_eq_false_of_isAnswered
    {ending : Ending}
    (answered : ending.isAnswered = true) :
    ending.isAbandoned = false := by
  rcases ending with error | awaited
  · rfl
  · cases awaited <;> simp_all [isAnswered, isAbandoned]

/-- An attempt settles a request with a reply only if it was answered with that reply. -/
theorem eq_of_result?_eq_ok
    {ending : Ending}
    {reply : Reply}
    (settled : ending.result? = some (.ok reply)) :
    ending = .awaited (.reply reply) ∧ reply.status = 0 := by
  rcases ending with error | awaited
  · simp [result?] at settled
  · cases awaited with
    | reply answer =>
      simp only [result?, StatusClass.ofStatus] at settled
      by_cases success : answer.status = 0
      · rw [if_pos success] at settled
        cases settled
        exact ⟨rfl, success⟩
      · rw [if_neg success] at settled
        by_cases negative : answer.status < 0 <;> simp [negative] at settled
    | abandoned => simp [result?] at settled
    | interrupted error => simp [result?] at settled
    | failed error => simp [result?] at settled

end Ending

namespace Session

variable {Stream : Type} [ByteStream Stream]

/-! ### One attempt -/

/-- How an attempt ended, and with which stream and clock. -/
structure Exchanged (Stream : Type) where
  ending : Ending
  stream : Stream
  clock : Clock

/-- What is waited for after a request has been written. -/
def waitingFor
    (session : Session Stream)
    (limits : Limits)
    (started written : Nat) :
    Waiting :=
  ⟨session.codec, session.config.replyTimeout, limits, started, written⟩

/-- Write a frame and wait for the reply to it. -/
def exchange
    (session : Session Stream)
    (frame : List Char)
    (limits : Limits)
    (started : Nat)
    (clock : Clock) :
    Exchanged Stream :=
  let response := ByteStream.write (Text.Utf8.encode frame) session.stream
  let clock := response.clockAfter none limits.deadline clock
  match response.outcome with
  | .error error => ⟨.unsent error, response.stream, clock⟩
  | .ok () =>
    let waited := awaitReply (session.waitingFor limits started clock.now) response.stream clock
    ⟨.awaited waited.awaited, waited.stream, waited.clock⟩

/-- The session after an attempt. -/
def conclude (session : Session Stream) (exchanged : Exchanged Stream) : Session Stream :=
  { session with
    stream := exchanged.stream
    commandsSent := session.commandsSent + exchanged.ending.completed
    staleInput := session.staleInput || exchanged.ending.isAbandoned }

/-- An attempt changes the session as its ending tells. -/
theorem attempt_eq
    (session : Session Stream)
    (frame : List Char)
    (limits : Limits)
    (started : Nat)
    (clock : Clock) :
    session.attempt frame limits started clock =
      let exchanged := session.exchange frame limits started clock
      ⟨exchanged.ending.result?, session.conclude exchanged, exchanged.clock⟩ := by
  simp only [attempt, exchange, waitingFor, conclude]
  cases written : (ByteStream.write (Text.Utf8.encode frame) session.stream).outcome with
  | error error => simp [Ending.result?, Ending.completed, Ending.isAbandoned]
  | ok =>
    simp only
    split
    next reply answered =>
      simp only [answered, settle, Ending.result?, Ending.completed, Ending.isAbandoned]
      cases StatusClass.ofStatus reply.status <;> simp
    all_goals
      next ended => simp [ended, Ending.result?, Ending.completed, Ending.isAbandoned]

/-! ### From one attempt to the next -/

/--
Whether a request goes on after `done` attempts that did not settle it, and the
clock at which it goes on or stops.
-/
def resumption
    (frame : List Char)
    (limits : Limits)
    (started : Nat)
    (policy : RetryPolicy)
    (done : Nat)
    (clock : Clock) :
    Except Error Unit × Clock :=
  if policy.canRetry done then
    match pause policy limits done clock with
    | none => (.error .clockOverflow, clock)
    | some later =>
      match limits.exceeded? started later with
      | some error => (.error error, later)
      | none => (.ok (), later)
  else
    (.error (.retriesExhausted (requestText frame) done), clock)

/-- The ways in which a request goes on or stops after `done` attempts. -/
inductive Resumption
    (frame : List Char)
    (limits : Limits)
    (started : Nat)
    (policy : RetryPolicy)
    (done : Nat)
    (clock : Clock) :
    Except Error Unit × Clock → Prop where
  | exhausted
      (spent : policy.maxAttempts ≤ done) :
      Resumption frame limits started policy done clock
        (.error (.retriesExhausted (requestText frame) done), clock)
  /-- The end of the pause is beyond the range of instants. -/
  | unnamed
      (left : done < policy.maxAttempts)
      (endless : pause policy limits done clock = none) :
      Resumption frame limits started policy done clock (.error .clockOverflow, clock)
  | limited {later : Clock} {error : Error}
      (left : done < policy.maxAttempts)
      (paused : pause policy limits done clock = some later)
      (excess : limits.Excess started later error) :
      Resumption frame limits started policy done clock (.error error, later)
  | resumed {later : Clock}
      (left : done < policy.maxAttempts)
      (paused : pause policy limits done clock = some later)
      (unreached : ¬ limits.IsReached later) :
      Resumption frame limits started policy done clock (.ok (), later)

/-- Every request goes on or stops in one of these ways. -/
theorem resumption_cases
    (frame : List Char)
    (limits : Limits)
    (started : Nat)
    (policy : RetryPolicy)
    (done : Nat)
    (clock : Clock) :
    Resumption frame limits started policy done clock
      (resumption frame limits started policy done clock) := by
  rw [resumption]
  by_cases left : done < policy.maxAttempts
  · rw [if_pos (by simpa [RetryPolicy.canRetry] using left)]
    cases paused : pause policy limits done clock with
    | none => exact .unnamed left paused
    | some later =>
      dsimp only
      cases exceeded : limits.exceeded? started later with
      | some error => exact .limited left paused (Limits.exceeded?_eq_some_iff.mp exceeded)
      | none => exact .resumed left paused (Limits.exceeded?_eq_none_iff.mp exceeded)
  · rw [if_neg (by simpa [RetryPolicy.canRetry] using left)]
    exact .exhausted (Nat.le_of_not_lt left)

theorem canRetry_of_resumption_eq_ok
    {frame : List Char}
    {limits : Limits}
    {started : Nat}
    {policy : RetryPolicy}
    {done : Nat}
    {clock : Clock}
    (resumed : (resumption frame limits started policy done clock).1 = .ok ()) :
    done < policy.maxAttempts := by
  have ways := resumption_cases frame limits started policy done clock
  generalize resumption frame limits started policy done clock = outcome at resumed ways
  cases ways with
  | resumed left _ _ => exact left
  | exhausted _ => simp at resumed
  | unnamed _ _ => simp at resumed
  | limited _ _ _ => simp at resumed

/-- How the attempts of a request ended, the first one first. -/
def endings
    (frame : List Char)
    (limits : Limits)
    (started : Nat)
    (policy : RetryPolicy)
    (done : Nat)
    (session : Session Stream)
    (clock : Clock) :
    List Ending :=
  let exchanged := session.exchange frame limits started clock
  let resumed := resumption frame limits started policy (done + 1) exchanged.clock
  match exchanged.ending.result?, _continued : resumed.1 with
  | none, .ok () =>
    exchanged.ending ::
      endings frame limits started policy (done + 1) (session.conclude exchanged) resumed.2
  | _, _ => [exchanged.ending]
termination_by policy.maxAttempts - done
decreasing_by
  have := canRetry_of_resumption_eq_ok _continued
  omega

theorem endings_eq
    (frame : List Char)
    (limits : Limits)
    (started : Nat)
    (policy : RetryPolicy)
    (done : Nat)
    (session : Session Stream)
    (clock : Clock) :
    endings frame limits started policy done session clock =
      let exchanged := session.exchange frame limits started clock
      match exchanged.ending.result? with
      | some _ => [exchanged.ending]
      | none =>
        let resumed := resumption frame limits started policy (done + 1) exchanged.clock
        match resumed.1 with
        | .error _ => [exchanged.ending]
        | .ok () =>
          exchanged.ending ::
            endings frame limits started policy (done + 1) (session.conclude exchanged)
              resumed.2 := by
  rw [endings]
  simp only
  split
  next unsettled continued => simp only [unsettled, continued]
  next final =>
    split
    · rfl
    next unsettled =>
      split
      · rfl
      next continued => exact (final unsettled continued).elim

/-- The loop of `sendFrame`: an attempt, and the next one if the first settles nothing. -/
theorem sendFrame_eq
    (frame : List Char)
    (limits : Limits)
    (started : Nat)
    (policy : RetryPolicy)
    (done : Nat)
    (session : Session Stream)
    (clock : Clock) :
    sendFrame frame limits started policy done session clock =
      let exchanged := session.exchange frame limits started clock
      match exchanged.ending.result? with
      | some result => ⟨result, session.conclude exchanged, exchanged.clock⟩
      | none =>
        let resumed := resumption frame limits started policy (done + 1) exchanged.clock
        match resumed.1 with
        | .error error => ⟨.error error, session.conclude exchanged, resumed.2⟩
        | .ok () =>
          sendFrame frame limits started policy (done + 1) (session.conclude exchanged)
            resumed.2 := by
  rw [sendFrame, attempt_eq]
  simp only
  cases (session.exchange frame limits started clock).ending.result? with
  | some result => rfl
  | none =>
    simp only [resumption]
    split
    · cases pause policy limits (done + 1) (session.exchange frame limits started clock).clock with
      | none => rfl
      | some later =>
        dsimp only
        cases limits.exceeded? started later <;> rfl
    · rfl

/-- An attempt that settles the request is the last one. -/
theorem sendFrame_of_settled
    {frame : List Char}
    {limits : Limits}
    {started : Nat}
    {session : Session Stream}
    {clock : Clock}
    {result : Except Error Reply}
    (settled : (session.exchange frame limits started clock).ending.result? = some result)
    (policy : RetryPolicy)
    (done : Nat) :
    sendFrame frame limits started policy done session clock =
      ⟨result, session.conclude (session.exchange frame limits started clock),
        (session.exchange frame limits started clock).clock⟩ := by
  rw [sendFrame_eq]
  simp only [settled]

/-- Induction over the attempts of a request, for its result and its endings at once. -/
@[elab_as_elim]
theorem sendFrame_induction
    (frame : List Char)
    (limits : Limits)
    (started : Nat)
    (policy : RetryPolicy)
    {motive : Nat → Session Stream → Clock → Step (Session Stream) Reply → List Ending → Prop}
    (settled : ∀ done session clock result,
      (session.exchange frame limits started clock).ending.result? = some result →
        motive done session clock
          ⟨result, session.conclude (session.exchange frame limits started clock),
            (session.exchange frame limits started clock).clock⟩
          [(session.exchange frame limits started clock).ending])
    (stopped : ∀ done session clock error later,
      (session.exchange frame limits started clock).ending.result? = none →
        resumption frame limits started policy (done + 1)
            (session.exchange frame limits started clock).clock = (.error error, later) →
          motive done session clock
            ⟨.error error, session.conclude (session.exchange frame limits started clock), later⟩
            [(session.exchange frame limits started clock).ending])
    (resumed : ∀ done session clock later step rest,
      (session.exchange frame limits started clock).ending.result? = none →
        resumption frame limits started policy (done + 1)
            (session.exchange frame limits started clock).clock = (.ok (), later) →
          motive (done + 1) (session.conclude (session.exchange frame limits started clock)) later
              step rest →
            motive done session clock step
              ((session.exchange frame limits started clock).ending :: rest))
    (done : Nat)
    (session : Session Stream)
    (clock : Clock) :
    motive done session clock
      (sendFrame frame limits started policy done session clock)
      (endings frame limits started policy done session clock) := by
  fun_induction endings frame limits started policy done session clock with
  | case1 done session clock exchanged continuation continued unsettled induction =>
    have next : continuation = (.ok (), continuation.2) := Prod.ext continued rfl
    rw [sendFrame_eq]
    simp only [exchanged, continuation] at unsettled continued next induction ⊢
    simp only [unsettled, continued]
    exact resumed done session clock _ _ _ unsettled next induction
  | case2 done session clock exchanged continuation final =>
    rw [sendFrame_eq]
    simp only [exchanged, continuation] at final ⊢
    cases outcome : (session.exchange frame limits started clock).ending.result? with
    | some result => exact settled done session clock result outcome
    | none =>
      cases next : resumption frame limits started policy (done + 1)
          (session.exchange frame limits started clock).clock with
      | mk continued later =>
        cases continued with
        | ok => exact (final outcome (by rw [next])).elim
        | error error => exact stopped done session clock error later outcome next

/-- The attempts of a request leave the input stale if it was, or if one of them was given up. -/
theorem staleInput_sendFrame
    (frame : List Char)
    (limits : Limits)
    (started : Nat)
    (policy : RetryPolicy)
    (done : Nat)
    (session : Session Stream)
    (clock : Clock) :
    (sendFrame frame limits started policy done session clock).state.staleInput =
      (session.staleInput ||
        (endings frame limits started policy done session clock).any Ending.isAbandoned) := by
  refine sendFrame_induction frame limits started policy
    (motive := fun _ session _ step ended =>
      step.state.staleInput = (session.staleInput || ended.any Ending.isAbandoned))
    ?settled ?stopped ?resumed done session clock
  case settled =>
    intro done session clock result _
    simp [conclude]
  case stopped =>
    intro done session clock error later _ _
    simp [conclude]
  case resumed =>
    intro done session clock later step rest _ _ induction
    rw [induction]
    simp [conclude, Bool.or_assoc]

theorem codec_sendFrame
    (frame : List Char)
    (limits : Limits)
    (started : Nat)
    (policy : RetryPolicy)
    (done : Nat)
    (session : Session Stream)
    (clock : Clock) :
    (sendFrame frame limits started policy done session clock).state.codec = session.codec := by
  refine sendFrame_induction frame limits started policy
    (motive := fun _ session _ step _ => step.state.codec = session.codec)
    ?settled ?stopped ?resumed done session clock
  case settled =>
    intro done session clock result _
    rfl
  case stopped =>
    intro done session clock error later _ _
    rfl
  case resumed =>
    intro done session clock later step rest _ _ induction
    exact induction

/-! ### A whole call -/

/-- The session whose codec has numbered the request. -/
def numbered (session : Session Stream) (command : Command) : Session Stream :=
  { session with codec := (session.codec.encode command).2 }

/-- How the attempts of a call ended; there are none if the call ends before its first write. -/
def attempts
    (session : Session Stream)
    (command : Command)
    (limits : Limits)
    (clock : Clock) :
    List Ending :=
  match limits.exceeded? clock.now clock with
  | some _ => []
  | none =>
    let dropped := (session.numbered command).dropStale
    match dropped.1 with
    | .error _ => []
    | .ok () =>
      endings (session.codec.encode command).1 limits clock.now session.config.retry 0
        dropped.2 clock

/-- A call that is refused by its limits does nothing but number its request. -/
theorem sendWithin_of_refused
    (session : Session Stream)
    (command : Command)
    {limits : Limits}
    {clock : Clock}
    {error : Error}
    (refused : limits.exceeded? clock.now clock = some error) :
    session.sendWithin command limits clock =
        ⟨.error error, session.numbered command, clock⟩ ∧
      session.attempts command limits clock = [] := by
  constructor
  · simp [sendWithin, refused, numbered]
  · simp [attempts, refused]

/-- A call that cannot drop stale input ends without an attempt. -/
theorem sendWithin_of_undropped
    (session : Session Stream)
    (command : Command)
    {limits : Limits}
    {clock : Clock}
    {error : Error}
    (admitted : limits.exceeded? clock.now clock = none)
    (undropped : (session.numbered command).dropStale.1 = .error error) :
    session.sendWithin command limits clock =
        ⟨.error error, (session.numbered command).dropStale.2, clock⟩ ∧
      session.attempts command limits clock = [] := by
  constructor
  · rw [numbered] at undropped ⊢
    simp [sendWithin, admitted, undropped]
  · simp [attempts, admitted, undropped]

/-- Any other call makes its attempts after stale input is gone. -/
theorem sendWithin_of_dropped
    (session : Session Stream)
    (command : Command)
    {limits : Limits}
    {clock : Clock}
    (admitted : limits.exceeded? clock.now clock = none)
    (dropped : (session.numbered command).dropStale.1 = .ok ()) :
    session.sendWithin command limits clock =
        sendFrame (session.codec.encode command).1 limits clock.now session.config.retry 0
          (session.numbered command).dropStale.2 clock ∧
      session.attempts command limits clock =
        endings (session.codec.encode command).1 limits clock.now session.config.retry 0
          (session.numbered command).dropStale.2 clock := by
  constructor
  · rw [numbered] at dropped ⊢
    simp [sendWithin, admitted, dropped]
  · simp [attempts, admitted, dropped]

/-- The three ways of a call, for its result and its attempts at once. -/
@[elab_as_elim]
theorem sendWithin_cases
    (session : Session Stream)
    (command : Command)
    (limits : Limits)
    (clock : Clock)
    {motive : Step (Session Stream) Reply → List Ending → Prop}
    (refused : ∀ error,
      limits.exceeded? clock.now clock = some error →
        motive ⟨.error error, session.numbered command, clock⟩ [])
    (undropped : ∀ error,
      limits.exceeded? clock.now clock = none →
      (session.numbered command).dropStale.1 = .error error →
        motive ⟨.error error, (session.numbered command).dropStale.2, clock⟩ [])
    (dropped :
      limits.exceeded? clock.now clock = none →
      (session.numbered command).dropStale.1 = .ok () →
        motive
          (sendFrame (session.codec.encode command).1 limits clock.now session.config.retry 0
            (session.numbered command).dropStale.2 clock)
          (endings (session.codec.encode command).1 limits clock.now session.config.retry 0
            (session.numbered command).dropStale.2 clock)) :
    motive (session.sendWithin command limits clock)
      (session.attempts command limits clock) := by
  cases admitted : limits.exceeded? clock.now clock with
  | some error =>
    rcases sendWithin_of_refused session command admitted with ⟨sends, tries⟩
    rw [sends, tries]
    exact refused error admitted
  | none =>
    cases outcome : (session.numbered command).dropStale.1 with
    | error error =>
      rcases sendWithin_of_undropped session command admitted outcome with ⟨sends, tries⟩
      rw [sends, tries]
      exact undropped error admitted outcome
    | ok =>
      rcases sendWithin_of_dropped session command admitted outcome with ⟨sends, tries⟩
      rw [sends, tries]
      exact dropped admitted outcome

/-- Replies are checked with the number of the request that is under way. -/
theorem codec_dropStale_numbered
    (session : Session Stream)
    (command : Command) :
    (session.numbered command).dropStale.2.codec = (session.codec.encode command).2 := by
  simp only [dropStale]
  split
  · split <;> rfl
  · rfl

/-- Every call numbers its request, however it ends. -/
theorem codec_sendWithin
    (session : Session Stream)
    (command : Command)
    (limits : Limits)
    (clock : Clock) :
    (session.sendWithin command limits clock).state.codec = (session.codec.encode command).2 := by
  refine sendWithin_cases session command limits clock
    (motive := fun step _ => step.state.codec = (session.codec.encode command).2)
    ?refused ?undropped ?dropped
  case refused =>
    intro error _
    rfl
  case undropped =>
    intro error _ _
    exact codec_dropStale_numbered session command
  case dropped =>
    intro _ _
    rw [codec_sendFrame]
    exact codec_dropStale_numbered session command

end Session

end RoverLink
