import RoverLink.Motor.Config

/-!
# The motor board

Two wheels with encoders.  Signals beyond the configured amplitude are refused before anything is
sent.
-/

namespace RoverLink

open Decimal

/-- Whether the motors are powered. -/
inductive MotorState where
  | disabled
  | enabled
  deriving DecidableEq, Repr, Inhabited

namespace MotorState

def name : MotorState → String
  | .disabled => "Disabled"
  | .enabled => "Enabled"

def named : List (String × MotorState) :=
  [("Disabled", .disabled), ("Enabled", .enabled)]

end MotorState

/-- The counts of both encoders, and when they were read. -/
structure EncoderValues where
  left : Int64
  right : Int64
  /-- The time of the board in seconds, if it sent one. -/
  timestamp : Option Binary64
  deriving DecidableEq, Repr

namespace EncoderValues

def ofCounts (left right : Int64) : EncoderValues :=
  ⟨left, right, none⟩

def counts (values : EncoderValues) : Int64 × Int64 :=
  (values.left, values.right)

/-- The counts that a reply holds, and its time in milliseconds as seconds. -/
def ofReply (reply : Reply) : Except Error EncoderValues :=
  match reply.integer 0 with
  | .error error => .error error
  | .ok left =>
    match reply.integer 1 with
    | .error error => .error error
    | .ok right =>
      let milliseconds := reply.values[2]?.bind ReplyValue.number?
      .ok ⟨left, right, milliseconds.map (· / Binary64.ofInt 1000)⟩

end EncoderValues

/-- The motor board of a rover. -/
structure Motor (Stream : Type) where
  device : Device Stream MotorConfig

namespace Motor

variable {Stream : Type} [ByteStream Stream]

def new (session : Session Stream) : Motor Stream :=
  ⟨.new "motors" session⟩

def state (motor : Motor Stream) : MotorState :=
  if motor.device.isConfigured && motor.device.enabled then .enabled else .disabled

/-- Upload a configuration; the motors are off afterwards. -/
def configure (motor : Motor Stream) (config : MotorConfig) (clock : Clock) :
    Step (Motor Stream) Unit :=
  (motor.device.configure config clock).within Motor.mk

def enable (motor : Motor Stream) (clock : Clock) : Step (Motor Stream) Unit :=
  (motor.device.enable clock).within Motor.mk

def disable (motor : Motor Stream) (clock : Clock) : Step (Motor Stream) Unit :=
  (motor.device.disable clock).within Motor.mk

/-- Send a command, if the board has a configuration. -/
def execute (motor : Motor Stream) (command : Command) (clock : Clock) :
    Step (Motor Stream) Reply :=
  (motor.device.execute command clock).within Motor.mk

def isWithin (maximum signal : Int32) : Bool :=
  signal.toInt.natAbs ≤ maximum.toInt.natAbs

/-- The first of two signals that is beyond an amplitude. -/
def excess? (maximum left right : Int32) : Option Int32 :=
  [left, right].find? fun signal => !isWithin maximum signal

def moveAt (motor : Motor Stream) (left right : Int32) (clock : Clock) :
    Step (Motor Stream) Unit :=
  match motor.device.requireConfig with
  | .error error => .refuse error motor clock
  | .ok config =>
    match excess? config.maxSignal left right with
    | some signal => .refuse (.signalOutOfRange signal config.maxSignal) motor clock
    | none =>
      match Command.make 'V' [left.toInt64, right.toInt64] with
      | .error error => .refuse error.toError motor clock
      | .ok command => (motor.execute command clock).map fun _ => ()

def stop (motor : Motor Stream) (clock : Clock) : Step (Motor Stream) Unit :=
  (motor.execute (.query 'X' (Eq.refl true)) clock).map fun _ => ()

/-- Read the counts of both encoders and their time. -/
def readEncoderValues (motor : Motor Stream) (clock : Clock) : Step (Motor Stream) EncoderValues :=
  let read := motor.execute (.query 'e' (Eq.refl true)) clock
  ⟨match read.result with
    | .ok reply => EncoderValues.ofReply reply
    | .error error => .error error, read.state, read.clock⟩

def readEncoders (motor : Motor Stream) (clock : Clock) : Step (Motor Stream) (Int64 × Int64) :=
  (motor.readEncoderValues clock).map EncoderValues.counts

def readStatus (motor : Motor Stream) (clock : Clock) : Step (Motor Stream) Reply :=
  motor.execute (.query 'S' (Eq.refl true)) clock

end Motor

end RoverLink
