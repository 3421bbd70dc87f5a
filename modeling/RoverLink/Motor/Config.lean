import RoverLink.Device
import RoverLink.Units

/-!
# Motor configurations

The drive train of a rover in physical units, and the upload command of its motor board in device
units.
-/

namespace RoverLink

open Decimal

/-- The gains of the speed loop. -/
structure PidGains where
  proportional : Binary64
  integral : Binary64
  derivative : Binary64
  deriving DecidableEq, Repr

def PidGains.zero : PidGains :=
  ⟨.zero false, .zero false, .zero false⟩

/-- The polarity of each encoder. -/
structure EncoderDirections where
  left : Int32
  right : Int32
  deriving DecidableEq, Repr

/-- Both encoders count forwards. -/
def EncoderDirections.forward : EncoderDirections :=
  ⟨1, 1⟩

/-- Whether a number is a polarity. -/
def EncoderDirections.isPolarity (direction : Int32) : Bool :=
  direction == 1 || direction == -1

/-- The drive train and its speed loop. -/
structure MotorConfig where
  /-- Encoder steps of one revolution of a wheel. -/
  encoderSteps : Binary64
  /-- The diameter of a wheel in metres. -/
  wheelDiameter : Binary64
  /-- The greatest linear speed in metres per second. -/
  maxSpeed : Binary64
  maxSignal : Int32
  usePid : Bool
  pid : PidGains
  /-- The polarity of each encoder. -/
  directions : EncoderDirections
  deriving DecidableEq, Repr

namespace MotorConfig

def standard : MotorConfig where
  encoderSteps := Binary64.ofInt 16000
  wheelDiameter := Binary64.ofDecimal false 47 (-2)
  maxSpeed := Binary64.ofInt 3
  maxSignal := 100
  usePid := false
  pid := .zero
  directions := .forward

/-- The greatest rate of revolutions of a wheel. -/
def maxRevolutionsPerSecond (config : MotorConfig) : Binary64 :=
  Units.maxRevolutionsPerSecond config.maxSpeed config.wheelDiameter

/-- The encoder steps per second at the greatest speed. -/
def encoderStepsPerSecond (config : MotorConfig) : Binary64 :=
  Units.encoderStepsPerSecond config.maxRevolutionsPerSecond config.encoderSteps

def deviceArguments (config : MotorConfig) : List Int64 :=
  [Units.toInt64 config.encoderSteps,
    (Units.rpsToDevice config.maxRevolutionsPerSecond).toInt64,
    config.maxSignal.toInt64,
    Command.flag config.usePid,
    (Units.gainToDevice config.pid.proportional).toInt64,
    (Units.gainToDevice config.pid.integral).toInt64,
    (Units.gainToDevice config.pid.derivative).toInt64,
    config.directions.left.toInt64,
    config.directions.right.toInt64]

/-- A number that can be a length, a speed or a count: positive and finite. -/
def isMeasure (number : Binary64) : Bool :=
  number.isFinite && number.isPositive

/-- What is wrong with the values, if anything is. -/
def fault? (config : MotorConfig) : Option String :=
  if !isMeasure config.encoderSteps then
    some "encoder steps must be positive"
  else if !isMeasure config.wheelDiameter then
    some "wheel diameter must be positive"
  else if !isMeasure config.maxSpeed then
    some "maximum speed must be positive"
  else if config.maxSignal ≤ 0 then
    some "maximum signal amplitude must be positive"
  else if !(config.pid.proportional.isFinite && config.pid.integral.isFinite &&
      config.pid.derivative.isFinite) then
    some "PID gains must be finite"
  else if !(EncoderDirections.isPolarity config.directions.left &&
      EncoderDirections.isPolarity config.directions.right) then
    some "encoder directions must be 1 or -1"
  else
    none

def validate (config : MotorConfig) : Except Error Unit :=
  match config.fault? with
  | some reason => .error (.invalidConfiguration reason)
  | none => .ok ()

def toCommand (config : MotorConfig) : Except Error Command :=
  (Command.make 'C' config.deviceArguments).mapError CommandError.toError

end MotorConfig

instance : DeviceConfiguration MotorConfig where
  validate := MotorConfig.validate
  toCommand := MotorConfig.toCommand

end RoverLink
