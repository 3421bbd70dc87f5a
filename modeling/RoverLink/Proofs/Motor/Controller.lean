import RoverLink.Motor
import RoverLink.Proofs.Device.Controller

/-!
# The motor board as a kind of board

Apart from configuring and switching, every task of a motor board sends one
command, which its device refuses without a configuration.
-/

namespace RoverLink

/-- What a motor board can be told to do. -/
inductive MotorTask where
  | configure (config : MotorConfig)
  | enable
  | disable
  | moveAt (left right : Int32)
  | stop
  | readEncoders
  | readEncoderValues
  | readStatus

/-- How a task prepares the device of a motor board. -/
def MotorTask.preparation? : MotorTask → Option (Preparation MotorConfig)
  | .configure config => some (.configure config)
  | .enable => some .enable
  | .disable => some .disable
  | _ => none

namespace Motor

variable {Stream : Type} [ByteStream Stream]

/-- The step of a task. -/
def run (motor : Motor Stream) (task : MotorTask) (clock : Clock) : Step (Motor Stream) Unit :=
  match task with
  | .configure config => motor.configure config clock
  | .enable => motor.enable clock
  | .disable => motor.disable clock
  | .moveAt left right => motor.moveAt left right clock
  | .stop => motor.stop clock
  | .readEncoders => (motor.readEncoders clock).map fun _ => ()
  | .readEncoderValues => (motor.readEncoderValues clock).map fun _ => ()
  | .readStatus => (motor.readStatus clock).map fun _ => ()

theorem execute_of_unconfigured
    {motor : Motor Stream}
    (unconfigured : motor.device.isConfigured = false)
    (command : Command)
    (clock : Clock) :
    motor.execute command clock = .refuse .notConfigured motor clock := by
  simp only [execute, Device.execute, Device.executeWithin, unconfigured]
  rfl

theorem run_of_unconfigured
    {motor : Motor Stream}
    (unconfigured : motor.device.isConfigured = false)
    {task : MotorTask}
    (other : task.preparation? = none)
    (clock : Clock) :
    motor.run task clock = .refuse .notConfigured motor clock := by
  cases task with
  | configure config => cases other
  | enable => cases other
  | disable => cases other
  | moveAt left right =>
    have none : motor.device.config = none := by
      simpa [Device.isConfigured] using unconfigured
    simp [run, moveAt, Device.requireConfig, none]
  | stop =>
    rw [run, stop, execute_of_unconfigured unconfigured]
    rfl
  | readEncoders =>
    rw [run, readEncoders, readEncoderValues, execute_of_unconfigured unconfigured]
    rfl
  | readEncoderValues =>
    rw [run, readEncoderValues, execute_of_unconfigured unconfigured]
    rfl
  | readStatus =>
    rw [run, readStatus, execute_of_unconfigured unconfigured]
    rfl

theorem config_execute
    (motor : Motor Stream)
    (command : Command)
    (clock : Clock) :
    (motor.execute command clock).state.device.config = motor.device.config :=
  motor.device.config_executeWithin command .none clock

theorem config_run
    (motor : Motor Stream)
    {task : MotorTask}
    (other : task.preparation? = none)
    (clock : Clock) :
    (motor.run task clock).state.device.config = motor.device.config := by
  cases task with
  | configure config => cases other
  | enable => cases other
  | disable => cases other
  | moveAt left right =>
    simp only [run, moveAt]
    split
    · rfl
    · split
      · rfl
      · split
        · rfl
        · exact motor.config_execute _ clock
  | stop => exact motor.config_execute _ clock
  | readEncoders => exact motor.config_execute _ clock
  | readEncoderValues => exact motor.config_execute _ clock
  | readStatus => exact motor.config_execute _ clock

/-- The motor board as a kind of board. -/
def controller (Stream : Type) [ByteStream Stream] : Controller Stream MotorConfig where
  Board := Motor (Logged Stream)
  Task := MotorTask
  device := Motor.device
  withDevice _ device := ⟨device⟩
  run := run
  preparation? := MotorTask.preparation?
  IsNamed _ _ := True
  device_withDevice _ _ := rfl
  run_of_preparation := by
    intro task preparation prepares board clock
    cases task <;> cases prepares <;> rfl
  refuses other _ clock unconfigured :=
    ⟨.notConfigured, run_of_unconfigured unconfigured other clock, by simp⟩
  stays other board clock configured := by
    rw [Device.isConfigured, config_run board other]
    exact configured

end Motor

end RoverLink
