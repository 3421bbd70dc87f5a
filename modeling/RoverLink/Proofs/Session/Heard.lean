import RoverLink.Proofs.Session.Log
import RoverLink.Proofs.Session.Outcome
import RoverLink.Proofs.Stream.Noise

/-!
# The first line after a request

A wait passes over noise, and over reads that bring nothing.  `Waiting.Brings`
says that it reads a certain line after nothing else, and `Hears` that this is
what happens after a request is written.

A line that is fatal to requests (`IsFatal`) then settles the request at once:
it is written once, and the error is that of the line
(`settlesAtOnce_of_isFatal`).
-/

namespace RoverLink

/-! ### What a wait passes over -/

/-- The outcomes of a read that tell nothing to a session. -/
inductive ReadOutcome.IsIdle : ReadOutcome → Prop where
  | line {text : List Char}
      (noise : IsNoise (Text.trim text)) :
      ReadOutcome.IsIdle (.line text)
  | nothing : ReadOutcome.IsIdle .nothing
  | failed {error : IoError}
      (early : error.isReadTimeout = true) :
      ReadOutcome.IsIdle (.failed error)

theorem ReadOutcome.IsIdle.ne_quiet
    {outcome : ReadOutcome}
    (idle : outcome.IsIdle) :
    outcome ≠ .quiet := by
  rintro rfl
  cases idle

theorem ReadOutcome.IsIdle.endedBy?_eq_none
    {outcome : ReadOutcome}
    (idle : outcome.IsIdle)
    (waiting : Session.Waiting) :
    waiting.endedBy? outcome = none := by
  cases idle with
  | line noise => simp [Session.Waiting.endedBy?, judge_of_isNoise noise waiting.codec]
  | nothing => rfl
  | failed early => simp [Session.Waiting.endedBy?, early]

/-- Whether a line ends every wait for a reply, and settles the request with an error. -/
def IsFatal (line : List Char) (error : Error) : Prop :=
  ∀ (waiting : Session.Waiting) {text : List Char}, Text.trim text = line →
    ∃ awaited, waiting.endedBy? (.line text) = some awaited ∧
      (Ending.awaited awaited).result? = some (.error error)

namespace Session

section

variable {Stream : Type} [ByteStream Stream]

/-- Whether a wait reads a line in time, and nothing but idle outcomes before. -/
inductive Waiting.Brings (waiting : Waiting) (text : List Char) : Stream → Clock → Prop where
  | now {stream : Stream} {clock : Clock}
      (isOpen : waiting.IsOpen clock)
      (reads : (ByteStream.readLine stream).outcome = .line text) :
      Waiting.Brings waiting text stream clock
  | later {stream : Stream} {clock : Clock}
      (isOpen : waiting.IsOpen clock)
      (idle : (ByteStream.readLine stream).outcome.IsIdle)
      (rest : waiting.Brings text (ByteStream.readLine stream).stream
        (waiting.clockAfterRead stream clock)) :
      Waiting.Brings waiting text stream clock

/-- A wait ends with the first line that it does not pass over. -/
theorem awaited_of_brings
    {waiting : Waiting}
    {text : List Char}
    {awaited : Awaited}
    (ended : waiting.endedBy? (.line text) = some awaited)
    {stream : Stream}
    {clock : Clock}
    (brings : waiting.Brings text stream clock) :
    (awaitReply waiting stream clock).awaited = awaited := by
  induction brings with
  | now isOpen reads =>
    rw [awaitReply_of_isOpen isOpen]
    simp [reads, ended]
  | later isOpen idle _ induction =>
    rw [awaitReply_of_isOpen isOpen]
    simpa [idle.ne_quiet, idle.endedBy?_eq_none waiting] using induction

/-! ### Requests -/

/-- The first write of a request without limits. -/
def firstWrite
    (session : Session Stream)
    (command : Command) :
    Response Stream (Except IoError Unit) :=
  ByteStream.write (Text.Utf8.encode (session.codec.encode command).1) session.dropStale.2.stream

/-- The clock after the first write. -/
def clockAfterWrite (session : Session Stream) (command : Command) (clock : Clock) : Clock :=
  (session.firstWrite command).clockAfter none none clock

/-- What is waited for after the first write. -/
def firstWaiting (session : Session Stream) (command : Command) (clock : Clock) : Waiting :=
  (session.dropStale.2.numbered command).waitingFor .none clock.now
    (session.clockAfterWrite command clock).now

/-- Whether a request is written, and a line is the first that is no noise after it. -/
structure Hears
    (session : Session Stream)
    (command : Command)
    (clock : Clock)
    (text : List Char) :
    Prop where
  dropped : session.dropStale.1 = .ok ()
  written : (session.firstWrite command).outcome = .ok ()
  brings : (session.firstWaiting command clock).Brings text
    (session.firstWrite command).stream (session.clockAfterWrite command clock)

/-- Whether a request is written once and has a result. -/
structure SettlesAtOnce
    (session : Session Stream)
    (command : Command)
    (clock : Clock)
    (result : Except Error Reply) :
    Prop where
  result : (session.send command clock).result = result
  transfers : ((session.mapStream Logged.start).send command clock).state.stream.transfers =
    [⟨Text.Utf8.encode (session.codec.encode command).1, true⟩]

/-- The first attempt of a request ends as its wait does. -/
theorem ending_of_hears
    {session : Session Stream}
    {command : Command}
    {clock : Clock}
    {text : List Char}
    (hears : session.Hears command clock text)
    {awaited : Awaited}
    (ended : (session.firstWaiting command clock).endedBy? (.line text) = some awaited) :
    ((session.dropStale.2.numbered command).exchange
      (session.codec.encode command).1 .none clock.now clock).ending = .awaited awaited := by
  have written : (ByteStream.write (Text.Utf8.encode (session.codec.encode command).1)
      (session.dropStale.2.numbered command).stream).outcome = .ok () := hears.written
  simp only [exchange, written]
  exact congrArg Ending.awaited (awaited_of_brings ended hears.brings)

/-- A fatal line that is the first after a request settles it at once. -/
theorem settlesAtOnce_of_isFatal
    {session : Session Stream}
    {command : Command}
    {clock : Clock}
    {text : List Char}
    (hears : session.Hears command clock text)
    {error : Error}
    (fatal : IsFatal (Text.trim text) error) :
    session.SettlesAtOnce command clock (.error error) := by
  rcases fatal (session.firstWaiting command clock) rfl with ⟨awaited, ended, settles⟩
  have cleared : (session.numbered command).dropStale.1 = .ok () := by
    rw [dropStale_numbered, hears.dropped]
  rcases sendWithin_of_dropped session command (exceeded?_none clock.now clock) cleared with
      ⟨sends, tries⟩
  rw [dropStale_numbered] at sends tries
  have ending := ending_of_hears hears ended
  have attempts : session.attempts command .none clock = [.awaited awaited] := by
    rw [tries, endings_eq]
    simp only [ending, settles]
  constructor
  case result =>
    rw [send, sends, sendFrame_of_settled (ending ▸ settles)]
  case transfers =>
    have mapped : session.attempts command .none clock =
        (session.mapStream Logged.start).attempts command .none clock :=
      attempts_map Logged.forget (session.mapStream Logged.start) command .none clock
    rw [send, transfers_sendWithin, ← mapped, attempts]
    rfl

end

/-! ### Scripted streams -/

theorem isIdle_receive
    (stream : Scripted)
    {arrival : Arrival}
    (idle : arrival.IsIdle) :
    (stream.receive arrival).outcome.IsIdle := by
  cases idle with
  | line noise => exact .line noise
  | failure early =>
    refine .failed ?_
    rcases early with rfl | rfl | rfl <;> rfl

theorem stream_receive
    (stream : Scripted)
    {arrival : Arrival}
    (idle : arrival.IsIdle) :
    (stream.receive arrival).stream = stream := by
  cases idle <;> rfl

/-- A wait reads through the idle arrivals in front of a line. -/
theorem brings_of_readable
    {waiting : Waiting}
    {clock : Clock}
    (isOpen : waiting.IsOpen clock)
    {idle : List Arrival}
    (areIdle : ∀ arrival ∈ idle, arrival.IsIdle)
    (text : List Char)
    (behind : List Arrival)
    {stream : Scripted}
    (connected : stream.connected = true)
    (readable : stream.readable = idle ++ .line text :: behind) :
    waiting.Brings text stream clock := by
  induction idle generalizing stream with
  | nil =>
    refine .now isOpen ?_
    show stream.readLine.outcome = _
    simp [Scripted.readLine, connected, readable, Scripted.receive]
  | cons arrival idle induction =>
    have isIdle := areIdle arrival (by simp)
    have reads : ByteStream.readLine stream =
        Scripted.receive { stream with readable := idle ++ .line text :: behind } arrival := by
      show stream.readLine = _
      simp [Scripted.readLine, connected, readable]
    have clock : waiting.clockAfterRead stream clock = clock := by
      rw [Waiting.clockAfterRead, reads]
      exact (Scripted.isPassedOver_receive _ isIdle).clockAfter _ _ _
    refine .later isOpen (reads ▸ isIdle_receive _ isIdle) ?_
    rw [clock, reads, stream_receive _ isIdle]
    exact induction (fun other member => areIdle other (by simp [member])) connected rfl

/-- A new session hears the first line of a script that is no noise. -/
theorem hears_reply
    (config : SessionConfig)
    (command : Command)
    (clock : Clock)
    {idle : List Arrival}
    (areIdle : ∀ arrival ∈ idle, arrival.IsIdle)
    (text : List Char)
    (behind : List Arrival) :
    (Session.new (Scripted.empty.reply (idle ++ .line text :: behind)) config).Hears
      command clock text where
  dropped := rfl
  written := rfl
  brings := brings_of_readable ⟨exceeded?_none .., Nat.le_add_right ..⟩ areIdle text behind rfl rfl

end Session

end RoverLink
