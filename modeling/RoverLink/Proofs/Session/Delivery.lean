import RoverLink.Proofs.Stream.Logged

/-!
# Sending one command after the other

A sequence of commands is sent over a stream with a log.  Each command comes with
its own limits and its own clock, and the stream may change on its own before
it is sent.  Over the stream without the log the same commands end in the same
way and leave the same session (`deliver_forget`, `deliverAll_forget`).
-/

namespace RoverLink

/-- A command to send, and what the stream does on its own before it is sent. -/
structure Sending (Stream : Type) where
  meanwhile : Stream → Stream
  command : Command
  limits : Limits
  clock : Clock

/-- A command sent to a stream that does nothing on its own. -/
def Sending.prompt
    {Stream : Type}
    (command : Command)
    (limits : Limits)
    (clock : Clock) :
    Sending Stream :=
  ⟨id, command, limits, clock⟩

namespace Session

variable {Stream : Type} [ByteStream Stream]

/-- The session when a command is sent. -/
def ready
    (session : Session (Logged Stream))
    (sending : Sending Stream) :
    Session (Logged Stream) :=
  { session with stream := session.stream.meanwhile sending.meanwhile }

/-- The step of sending a command. -/
def deliver
    (session : Session (Logged Stream))
    (sending : Sending Stream) :
    Step (Session (Logged Stream)) Reply :=
  (session.ready sending).sendWithin sending.command sending.limits sending.clock

/-- How the attempts to send a command ended. -/
def tries (session : Session (Logged Stream)) (sending : Sending Stream) : List Ending :=
  (session.ready sending).attempts sending.command sending.limits sending.clock

/-- The session after commands have been sent. -/
def deliverAll
    (session : Session (Logged Stream))
    (sendings : List (Sending Stream)) :
    Session (Logged Stream) :=
  sendings.foldl (fun session sending => (session.deliver sending).state) session

/-- Keeping the log changes nothing about sending. -/
theorem deliver_forget
    (session : Session (Logged Stream))
    (sending : Sending Stream) :
    (session.deliver sending).within (mapStream Logged.stream) =
      ((session.mapStream Logged.stream).mapStream sending.meanwhile).sendWithin
        sending.command sending.limits sending.clock :=
  (sendWithin_map Logged.forget (session.ready sending) _ _ _).symm

/-- Keeping the log changes nothing about sending one command after the other. -/
theorem deliverAll_forget
    (session : Session (Logged Stream))
    (sendings : List (Sending Stream)) :
    (session.deliverAll sendings).mapStream Logged.stream =
      sendings.foldl
        (fun bare sending =>
          ((bare.mapStream sending.meanwhile).sendWithin
            sending.command sending.limits sending.clock).state)
        (session.mapStream Logged.stream) := by
  induction sendings generalizing session with
  | nil => rfl
  | cons sending sendings induction =>
    rw [List.foldl_cons, ← deliver_forget, Step.state_within, ← induction]
    rfl

end Session

end RoverLink
