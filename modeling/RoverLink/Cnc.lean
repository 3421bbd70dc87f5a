import RoverLink.Cnc.Config

/-!
# Stepper boards

A board with several axes acknowledges a motion when it starts and goes on moving, so the end of a
motion has to be asked for.  The motion state is what the last acknowledged commands and the last
answers to that question tell.
-/

namespace RoverLink

/-- What a stepper board is doing as far as is known. -/
inductive CncState where
  | idle
  | homing
  | moving
  /-- It is busy although it was told nothing. -/
  | busy
  deriving DecidableEq, Repr, Inhabited

namespace CncState

def name : CncState → String
  | .idle => "Idle"
  | .homing => "Homing"
  | .moving => "Moving"
  | .busy => "Busy"

def named : List (String × CncState) :=
  [("Idle", .idle), ("Homing", .homing), ("Moving", .moving), ("Busy", .busy)]

/-- Whether the board may still be in motion. -/
def isActive : CncState → Bool
  | .idle => false
  | _ => true

/-- The state after an answer to the question whether the board is busy. -/
def afterPoll (state : CncState) (busy : Bool) : CncState :=
  if busy then
    match state with
    | .idle => .busy
    | other => other
  else
    .idle

end CncState

/-- A stepper board. -/
structure Cnc (Stream : Type) where
  device : Device Stream CncConfig
  state : CncState

namespace Cnc

variable {Stream : Type} [ByteStream Stream]

def new (session : Session Stream) : Cnc Stream :=
  ⟨.new "cnc" session, .idle⟩

/-- The board around a device, with the motion state of another board. -/
def withDevice (cnc : Cnc Stream) (device : Device Stream CncConfig) : Cnc Stream :=
  { cnc with device }

/-- Upload a homing configuration; the steppers are off afterwards. -/
def configure (cnc : Cnc Stream) (config : CncConfig) (clock : Clock) : Step (Cnc Stream) Unit :=
  (cnc.device.configure config clock).within cnc.withDevice

/-- Upload a homing configuration without switching the steppers off. -/
def configureHoming (cnc : Cnc Stream) (config : CncConfig) (clock : Clock) :
    Step (Cnc Stream) Unit :=
  (cnc.device.updateConfig config clock).within cnc.withDevice

def enable (cnc : Cnc Stream) (clock : Clock) : Step (Cnc Stream) Unit :=
  (cnc.device.enable clock).within cnc.withDevice

def disable (cnc : Cnc Stream) (clock : Clock) : Step (Cnc Stream) Unit :=
  (cnc.device.disable clock).within cnc.withDevice

/-- Send a command that leads to a motion state once it is acknowledged. -/
def start (cnc : Cnc Stream) (command : Command) (next : CncState) (clock : Clock) :
    Step (Cnc Stream) Unit :=
  let sent := cnc.device.execute command clock
  match sent.result with
  | .ok _ => ⟨.ok (), ⟨sent.state, next⟩, sent.clock⟩
  | .error error => ⟨.error error, cnc.withDevice sent.state, sent.clock⟩

def moveSteps (cnc : Cnc Stream) (milliseconds dx dy dz : Int64) (clock : Clock) :
    Step (Cnc Stream) Unit :=
  if milliseconds ≤ 0 then
    .refuse
      (.invalidArgument
        ("move duration must be positive, got " ++ toString milliseconds.toInt ++ "ms"))
      cnc clock
  else
    match Command.make 'M' [milliseconds, dx, dy, dz] with
    | .error error => .refuse error.toError cnc clock
    | .ok command => cnc.start command .moving clock

/-- Run the axes at step rates; three zeros stop them. -/
def moveAt (cnc : Cnc Stream) (vx vy vz : Int64) (clock : Clock) : Step (Cnc Stream) Unit :=
  match Command.make 'V' [vx, vy, vz] with
  | .error error => .refuse error.toError cnc clock
  | .ok command =>
    cnc.start command (if vx = 0 ∧ vy = 0 ∧ vz = 0 then .idle else .moving) clock

def homing (cnc : Cnc Stream) (clock : Clock) : Step (Cnc Stream) Unit :=
  cnc.start (.query 'H' (Eq.refl true)) .homing clock

def setRelay (cnc : Cnc Stream) (on : Bool) (clock : Clock) : Step (Cnc Stream) Unit :=
  ((cnc.device.execute (.switch 'S' (Eq.refl true) on) clock).within cnc.withDevice).map fun _ => ()

def pollCommand : Command :=
  .query 'I' (Eq.refl true)

/-- Ask within limits whether the board is busy. -/
def poll (cnc : Cnc Stream) (limits : Limits) (clock : Clock) : Step (Cnc Stream) Bool :=
  let sent := cnc.device.executeWithin pollCommand limits clock
  match sent.result with
  | .error error => ⟨.error error, cnc.withDevice sent.state, sent.clock⟩
  | .ok reply =>
    match reply.integer 0 with
    | .error error => ⟨.error error, cnc.withDevice sent.state, sent.clock⟩
    | .ok value =>
      let busy := value != 0
      ⟨.ok busy, ⟨sent.state, cnc.state.afterPoll busy⟩, sent.clock⟩

def isBusy (cnc : Cnc Stream) (clock : Clock) : Step (Cnc Stream) Bool :=
  cnc.poll .none clock

end Cnc

end RoverLink
