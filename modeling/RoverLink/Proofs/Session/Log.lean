import RoverLink.Proofs.Stream.Logged

/-!
# What the log of a session says about a request

A request writes one frame for each of its attempts and nothing else
(`transfers_sendWithin`).  If it is answered, the last access is the read of the
line that its codec took for the answer (`endsWithAnswer_sendWithin`).
-/

namespace RoverLink

namespace Ending

/-- Whether the request was written. -/
def isSent : Ending → Bool
  | .unsent _ => false
  | .awaited _ => true

/-- What the attempt did with the octets of its request. -/
def transfer (octets : List UInt8) (ending : Ending) : Transfer :=
  ⟨octets, ending.isSent⟩

end Ending

/-- Whether the last access of a log read the line in which a codec found the reply. -/
def EndsWithAnswer (codec : Codec) (reply : Reply) (log : List Access) : Prop :=
  ∃ text, log.getLast? = some (.read (.line text)) ∧ codec.judge (Text.trim text) = .answer reply

namespace Session

variable {Stream : Type} [ByteStream Stream]

/-! ### What is written -/

theorem transfers_awaitReply
    (waiting : Waiting)
    (logged : Logged Stream)
    (clock : Clock) :
    (awaitReply waiting logged clock).stream.transfers = logged.transfers := by
  refine awaitReply_induction waiting
    (motive := fun logged _ waited => waited.stream.transfers = logged.transfers)
    ?closed ?quiet ?ended ?passed logged clock
  case closed =>
    intro logged clock _
    rfl
  case quiet =>
    intro logged clock _ _
    exact logged.transfers_readLine
  case ended =>
    intro logged clock awaited _ _ _
    exact logged.transfers_readLine
  case passed =>
    intro logged clock waited _ _ _ induction
    rw [induction, Logged.transfers_readLine]

/-- An attempt writes its request once. -/
theorem transfers_exchange
    (session : Session (Logged Stream))
    (frame : List Char)
    (limits : Limits)
    (started : Nat)
    (clock : Clock) :
    (session.exchange frame limits started clock).stream.transfers =
      session.stream.transfers ++
        [(session.exchange frame limits started clock).ending.transfer
          (Text.Utf8.encode frame)] := by
  simp only [exchange]
  cases written : (ByteStream.write (Text.Utf8.encode frame) session.stream).outcome with
  | error error => simp [written, Ending.transfer, Ending.isSent, Except.isOk, Except.toBool]
  | ok =>
    simp [transfers_awaitReply, written, Ending.transfer, Ending.isSent, Except.isOk,
      Except.toBool]

theorem transfers_sendFrame
    (frame : List Char)
    (limits : Limits)
    (started : Nat)
    (policy : RetryPolicy)
    (done : Nat)
    (session : Session (Logged Stream))
    (clock : Clock) :
    (sendFrame frame limits started policy done session clock).state.stream.transfers =
      session.stream.transfers ++
        (endings frame limits started policy done session clock).map
          (Ending.transfer (Text.Utf8.encode frame)) := by
  refine sendFrame_induction frame limits started policy
    (motive := fun _ session _ step ended =>
      step.state.stream.transfers =
        session.stream.transfers ++ ended.map (Ending.transfer (Text.Utf8.encode frame)))
    ?settled ?stopped ?resumed done session clock
  case settled =>
    intro done session clock result _
    exact transfers_exchange session frame limits started clock
  case stopped =>
    intro done session clock error later _ _
    exact transfers_exchange session frame limits started clock
  case resumed =>
    intro done session clock later step rest _ _ induction
    rw [induction, conclude, transfers_exchange, List.append_assoc]
    rfl

theorem transfers_dropStale (session : Session (Logged Stream)) :
    session.dropStale.2.stream.transfers = session.stream.transfers := by
  simp only [dropStale]
  split
  · split <;> exact session.stream.transfers_discardInput
  · rfl

/-- A request writes its frame once for each attempt, and nothing else. -/
theorem transfers_sendWithin
    (session : Session (Logged Stream))
    (command : Command)
    (limits : Limits)
    (clock : Clock) :
    (session.sendWithin command limits clock).state.stream.transfers =
      session.stream.transfers ++
        (session.attempts command limits clock).map
          (Ending.transfer (Text.Utf8.encode (session.codec.encode command).1)) := by
  refine sendWithin_cases session command limits clock
    (motive := fun step attempts =>
      step.state.stream.transfers =
        session.stream.transfers ++
          attempts.map (Ending.transfer (Text.Utf8.encode (session.codec.encode command).1)))
    ?refused ?undropped ?dropped
  case refused =>
    intro error _
    exact (List.append_nil _).symm
  case undropped =>
    intro error _ _
    rw [transfers_dropStale]
    exact (List.append_nil _).symm
  case dropped =>
    intro _ _
    rw [transfers_sendFrame, transfers_dropStale]
    rfl

/-! ### What an answer was read from -/

theorem endsWithAnswer_awaitReply
    (waiting : Waiting)
    {logged : Logged Stream}
    {clock : Clock}
    {reply : Reply}
    (answered : (awaitReply waiting logged clock).awaited = .reply reply) :
    EndsWithAnswer waiting.codec reply (awaitReply waiting logged clock).stream.log := by
  revert answered
  refine awaitReply_induction waiting
    (motive := fun _ _ waited =>
      waited.awaited = .reply reply → EndsWithAnswer waiting.codec reply waited.stream.log)
    ?closed ?quiet ?ended ?passed logged clock
  case closed =>
    intro logged clock _ answered
    exact (waiting.expired_ne_reply clock reply answered).elim
  case quiet =>
    intro logged clock _ _ answered
    exact (waiting.expired_ne_reply _ reply answered).elim
  case ended =>
    intro logged clock awaited _ _ found answered
    have answered : awaited = .reply reply := answered
    subst answered
    rcases Waiting.line_of_endedBy?_eq_reply found with ⟨text, outcome, judged⟩
    refine ⟨text, ?_, judged⟩
    rw [Logged.log_readLine, outcome, List.getLast?_concat]
  case passed =>
    intro logged clock waited _ _ _ induction
    exact induction

theorem endsWithAnswer_sendFrame
    {frame : List Char}
    {limits : Limits}
    {started : Nat}
    {policy : RetryPolicy}
    {done : Nat}
    {session : Session (Logged Stream)}
    {clock : Clock}
    {reply : Reply}
    (answered :
      (sendFrame frame limits started policy done session clock).result = .ok reply) :
    EndsWithAnswer session.codec reply
      (sendFrame frame limits started policy done session clock).state.stream.log := by
  revert answered
  refine sendFrame_induction frame limits started policy
    (motive := fun _ session _ step _ =>
      step.result = .ok reply → EndsWithAnswer session.codec reply step.state.stream.log)
    ?settled ?stopped ?resumed done session clock
  case settled =>
    intro done session clock result settled answered
    have answered : result = .ok reply := answered
    subst answered
    have ended := (Ending.eq_of_result?_eq_ok settled).1
    simp only [exchange] at ended
    simp only [conclude, exchange]
    split at ended
    · simp at ended
    · exact endsWithAnswer_awaitReply (session.waitingFor limits started _)
        (Ending.awaited.inj ended)
  case stopped =>
    intro done session clock error later _ _ answered
    simp at answered
  case resumed =>
    intro done session clock later step rest _ _ induction
    exact induction

/-- A request that is answered ends with reading the answer. -/
theorem endsWithAnswer_sendWithin
    {session : Session (Logged Stream)}
    {command : Command}
    {limits : Limits}
    {clock : Clock}
    {reply : Reply}
    (answered : (session.sendWithin command limits clock).result = .ok reply) :
    EndsWithAnswer (session.codec.encode command).2 reply
      (session.sendWithin command limits clock).state.stream.log := by
  revert answered
  refine sendWithin_cases session command limits clock
    (motive := fun step _ =>
      step.result = .ok reply →
        EndsWithAnswer (session.codec.encode command).2 reply step.state.stream.log)
    ?refused ?undropped ?dropped
  case refused =>
    intro error _ answered
    simp at answered
  case undropped =>
    intro error _ _ answered
    simp at answered
  case dropped =>
    intro _ _ answered
    have ends := endsWithAnswer_sendFrame answered
    rw [codec_dropStale_numbered] at ends
    exact ends

end Session

end RoverLink
