import RoverLink.Codec
import RoverLink.Session.Config
import RoverLink.Session.Limits
import RoverLink.Step
import RoverLink.Stream

/-!
# Sessions

A session owns a stream and has one request under way at a time.  `send` writes the request and
reads lines until one of them decides the attempt; an attempt that brings nothing usable, or a
negative status, is repeated with the same request as often as the retry policy allows.

Lines that arrive after an attempt was given up must not be taken for the reply to a later request.
A session that gave up an attempt while waiting therefore drops all input before the next request.
-/

namespace RoverLink

/-- One request at a time over a stream. -/
structure Session (Stream : Type) where
  stream : Stream
  codec : Codec
  config : SessionConfig
  commandsSent : Nat
  /-- Whether a reply to a request that was given up may still arrive. -/
  staleInput : Bool

/-- How waiting for a reply ended. -/
inductive Awaited where
  | reply (reply : Reply)
  /-- Nothing usable arrived in time, or the reply was damaged. -/
  | abandoned
  | interrupted (error : Error)
  /-- The link failed, or a frame gave no reply. -/
  | failed (error : Error)
  deriving DecidableEq, Repr

namespace Session

variable {Stream : Type} [ByteStream Stream]

def new (stream : Stream) (config : SessionConfig) : Session Stream :=
  ⟨stream, .new config.checksum, config, 0, false⟩

/-- The frame of a request without its end, as errors mention it. -/
def requestText (frame : List Char) : String :=
  String.ofList (Text.trimEnd frame)

/-! ### Waiting for one reply -/

/-- The request under way: how it is checked, and since when and for how long it is waited for. -/
structure Waiting where
  codec : Codec
  replyTimeout : Span
  limits : Limits
  started : Nat
  written : Nat

/-- The instant up to which a reply may take. -/
def Waiting.replyEnd (waiting : Waiting) : Nat :=
  waiting.written + waiting.replyTimeout.nanoseconds

/--
The clock when waiting on a quiet stream ends: at the first limit, or with the time for a reply.
-/
def Waiting.expiry (waiting : Waiting) (clock : Clock) : Clock :=
  clock.advanceTo (waiting.limits.wakeUp (waiting.replyEnd + 1) clock)

/-- How waiting ends when no line is read any more. -/
def Waiting.expired (waiting : Waiting) (clock : Clock) : Awaited :=
  match waiting.limits.exceeded? waiting.started clock with
  | some error => .interrupted error
  | none => .abandoned

/-- How waiting for a reply ended, and with which stream and clock. -/
structure Waited (Stream : Type) where
  awaited : Awaited
  /-- The stream without the lines that were read. -/
  stream : Stream
  clock : Clock

/--
Read lines until one decides the attempt, or until a limit or the time for a reply is reached.
-/
def awaitReply (waiting : Waiting) (stream : Stream) (clock : Clock) : Waited Stream :=
  match waiting.limits.exceeded? waiting.started clock with
  | some error => ⟨.interrupted error, stream, clock⟩
  | none =>
    if waiting.replyEnd < clock.now then
      ⟨.abandoned, stream, clock⟩
    else
      let response := ByteStream.readLine stream
      let after := response.clockAfter (some waiting.replyEnd) waiting.limits.deadline clock
      match _outcome : response.outcome with
      | .line text =>
        let line := Text.trim text
        match waiting.codec.judge line with
        | .skipped => awaitReply waiting response.stream after
        | .answer reply => ⟨.reply reply, response.stream, after⟩
        | .corrupted => ⟨.abandoned, response.stream, after⟩
        | .undecodable error => ⟨.failed (error.toError line), response.stream, after⟩
      | .nothing => awaitReply waiting response.stream after
      | .quiet =>
        let after := waiting.expiry after
        ⟨waiting.expired after, response.stream, after⟩
      | .failed error =>
        if _retried : error.isReadTimeout then
          awaitReply waiting response.stream after
        else
          ⟨.failed (.linkLost error.message), response.stream, after⟩
termination_by ByteStream.supply stream
decreasing_by
  all_goals
    apply ByteStream.supply_readLine_lt
    simp_all [ReadOutcome.isRetried, response]

/-! ### One attempt -/

/-- How an attempt ended: with a result, or so that the request should be sent again. -/
structure Tried (Stream : Type) where
  result : Option (Except Error Reply)
  session : Session Stream
  clock : Clock

/-- The session after a reply, and what the reply settles. -/
def settle (session : Session Stream) (reply : Reply) (clock : Clock) : Tried Stream :=
  match StatusClass.ofStatus reply.status with
  | .success => ⟨some (.ok reply), { session with commandsSent := session.commandsSent + 1 }, clock⟩
  | .fatal code => ⟨some (.error (.deviceError code reply.message)), session, clock⟩
  | .transient => ⟨none, session, clock⟩

/-- Write a frame and wait for the reply to it. -/
def attempt
    (session : Session Stream)
    (frame : List Char)
    (limits : Limits)
    (started : Nat)
    (clock : Clock) :
    Tried Stream :=
  let response := ByteStream.write (Text.Utf8.encode frame) session.stream
  let clock := response.clockAfter none limits.deadline clock
  match response.outcome with
  | .error error =>
    ⟨some (.error (.linkLost error.message)), { session with stream := response.stream }, clock⟩
  | .ok () =>
    let waiting : Waiting :=
      ⟨session.codec, session.config.replyTimeout, limits, started, clock.now⟩
    let waited := awaitReply waiting response.stream clock
    let session := { session with stream := waited.stream }
    match waited.awaited with
    | .reply reply => settle session reply waited.clock
    | .abandoned => ⟨none, { session with staleInput := true }, waited.clock⟩
    | .interrupted error =>
      ⟨some (.error error), { session with staleInput := true }, waited.clock⟩
    | .failed error => ⟨some (.error error), session, waited.clock⟩

/-! ### Attempts up to the end of the retry policy -/

/-- The clock after the wait that follows an attempt, if its end can be named. -/
def pause (policy : RetryPolicy) (limits : Limits) (attempts : Nat) (clock : Clock) :
    Option Clock :=
  let delay := policy.delayAfter attempts
  if delay.nanoseconds = 0 then some clock else limits.sleep delay.nanoseconds clock

/-- Repeat attempts after `done` of them until one settles the request or none is left. -/
def sendFrame
    (frame : List Char)
    (limits : Limits)
    (started : Nat)
    (policy : RetryPolicy)
    (done : Nat)
    (session : Session Stream)
    (clock : Clock) :
    Step (Session Stream) Reply :=
  let tried := session.attempt frame limits started clock
  match tried.result with
  | some result => ⟨result, tried.session, tried.clock⟩
  | none =>
    if remaining : policy.canRetry (done + 1) then
      match pause policy limits (done + 1) tried.clock with
      | none => ⟨.error .clockOverflow, tried.session, tried.clock⟩
      | some clock =>
        match limits.exceeded? started clock with
        | some error => ⟨.error error, tried.session, clock⟩
        | none => sendFrame frame limits started policy (done + 1) tried.session clock
    else
      ⟨.error (.retriesExhausted (requestText frame) (done + 1)), tried.session, tried.clock⟩
termination_by policy.maxAttempts - done
decreasing_by
  simp only [RetryPolicy.canRetry, decide_eq_true_eq] at remaining
  omega

/-- Drop the input of a session that gave up an attempt; nothing otherwise. -/
def dropStale (session : Session Stream) : Except Error Unit × Session Stream :=
  if session.staleInput then
    let dropped := ByteStream.discardInput session.stream
    match dropped.1 with
    | .ok () => (.ok (), { session with stream := dropped.2, staleInput := false })
    | .error error => (.error (.linkLost error.message), { session with stream := dropped.2 })
  else
    (.ok (), session)

/-- Send a command within limits and wait until its reply settles it. -/
def sendWithin
    (session : Session Stream)
    (command : Command)
    (limits : Limits)
    (clock : Clock) :
    Step (Session Stream) Reply :=
  let encoded := session.codec.encode command
  let session := { session with codec := encoded.2 }
  match limits.exceeded? clock.now clock with
  | some error => ⟨.error error, session, clock⟩
  | none =>
    let dropped := session.dropStale
    match dropped.1 with
    | .error error => ⟨.error error, dropped.2, clock⟩
    | .ok () => sendFrame encoded.1 limits clock.now session.config.retry 0 dropped.2 clock

def send (session : Session Stream) (command : Command) (clock : Clock) :
    Step (Session Stream) Reply :=
  session.sendWithin command .none clock

end Session

end RoverLink
