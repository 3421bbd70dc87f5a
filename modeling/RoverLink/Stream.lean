import RoverLink.Time.Clock

/-!
# Streams of lines

A session needs three things of its link: write octets, read one line, and drop what has arrived but
was not read.  `ByteStream` states them for a type of streams.

A stream has a finite supply: every read that brings something, or that fails in a way that only
means "not yet", uses up a part of it, and no operation adds to it.  So whoever reads until a stream
is quiet comes to an end.  A stream that is quiet brings nothing until the time allowed has passed.
-/

namespace RoverLink

/-- The kinds of failure of reading and writing. -/
inductive IoErrorKind where
  | timedOut
  | wouldBlock
  | interrupted
  | unexpectedEof
  | connectionReset
  | permissionDenied
  | brokenPipe
  | other
  deriving DecidableEq, Repr

namespace IoErrorKind

def named : List (String × IoErrorKind) :=
  [("TimedOut", .timedOut), ("WouldBlock", .wouldBlock), ("Interrupted", .interrupted),
    ("UnexpectedEof", .unexpectedEof), ("ConnectionReset", .connectionReset),
    ("PermissionDenied", .permissionDenied), ("BrokenPipe", .brokenPipe), ("Other", .other)]

def name : IoErrorKind → String
  | .timedOut => "TimedOut"
  | .wouldBlock => "WouldBlock"
  | .interrupted => "Interrupted"
  | .unexpectedEof => "UnexpectedEof"
  | .connectionReset => "ConnectionReset"
  | .permissionDenied => "PermissionDenied"
  | .brokenPipe => "BrokenPipe"
  | .other => "Other"

def ofName? (name : String) : Option IoErrorKind :=
  named.lookup name

end IoErrorKind

/-- A failure of reading or writing. -/
structure IoError where
  kind : IoErrorKind
  message : String
  deriving DecidableEq, Repr

/-- Whether a failed read only means that nothing has arrived yet. -/
def IoError.isReadTimeout (error : IoError) : Bool :=
  match error.kind with
  | .timedOut | .wouldBlock | .interrupted => true
  | _ => false

/-- What a read brought. -/
inductive ReadOutcome where
  /-- A line without its end. -/
  | line (text : List Char)
  /-- Nothing yet, but more may follow at once. -/
  | nothing
  /-- Nothing, and nothing more for as long as the reader waits. -/
  | quiet
  | failed (error : IoError)
  deriving DecidableEq, Repr

/-- Whether a reader may read again at once. -/
def ReadOutcome.isRetried : ReadOutcome → Bool
  | .line _ => true
  | .nothing => true
  | .quiet => false
  | .failed error => error.isReadTimeout

/-- The outcome of an operation on a stream, what happened meanwhile, and the stream after it. -/
structure Response (Stream Outcome : Type) where
  outcome : Outcome
  /-- The time that passed meanwhile. -/
  lapse : Lapse
  cancels : Bool
  stream : Stream

def Response.clockAfter
    {Stream Outcome : Type}
    (response : Response Stream Outcome)
    (replyEnd deadline : Option Nat)
    (clock : Clock) :
    Clock :=
  let clock := clock.pass response.lapse replyEnd deadline
  if response.cancels then clock.cancel else clock

/-- Streams that lines can be read from and octets written to. -/
class ByteStream (Stream : Type) where
  write : List UInt8 → Stream → Response Stream (Except IoError Unit)
  readLine : Stream → Response Stream ReadOutcome
  discardInput : Stream → Except IoError Unit × Stream
  /-- How much can still be read at most. -/
  supply : Stream → Nat
  supply_write : ∀ octets stream, supply (write octets stream).stream ≤ supply stream
  supply_discardInput : ∀ stream, supply (discardInput stream).2 ≤ supply stream
  supply_readLine : ∀ stream, supply (readLine stream).stream ≤ supply stream
  /-- Reading something uses up a part of the supply. -/
  supply_readLine_lt : ∀ stream, (readLine stream).outcome.isRetried = true →
    supply (readLine stream).stream < supply stream

end RoverLink
