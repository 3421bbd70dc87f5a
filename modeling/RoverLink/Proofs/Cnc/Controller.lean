import RoverLink.Proofs.Cnc.Polling
import RoverLink.Proofs.Motor.Controller

/-!
# The stepper board as a kind of board

Apart from configuring and switching, a stepper board sends commands and waits,
and its device refuses all of this without a configuration.  With this the three
kinds of boards are complete (`gated_until_configured`).
-/

namespace RoverLink

/-- What a stepper board can be told to do. -/
inductive CncTask where
  | configure (config : CncConfig)
  | configureHoming (config : CncConfig)
  | enable
  | disable
  | moveSteps (milliseconds dx dy dz : Int64)
  | moveAt (vx vy vz : Int64)
  | homing
  | setRelay (on : Bool)
  | isBusy
  | wait (options : WaitOptions)

namespace CncTask

/-- How a task prepares the device of a stepper board. -/
def preparation? : CncTask → Option (Preparation CncConfig)
  | .configure config => some (.configure config)
  | .enable => some .enable
  | .disable => some .disable
  | _ => none

/-- Whether the deadline of a wait is within the range of instants. -/
def IsNamed (task : CncTask) (clock : Clock) : Prop :=
  ∀ options, task = .wait options → options.IsNamed clock

end CncTask

/-! ### Waiting -/

theorem Inquiry.config_step
    {Stream : Type}
    [ByteStream Stream]
    (inquiry : Inquiry Stream)
    (limits : Limits) :
    (inquiry.step limits).state.device.config = inquiry.cnc.device.config := by
  rw [step_eq]
  exact inquiry.cnc.device.config_executeWithin Cnc.pollCommand limits inquiry.clock

theorem Waits.config_eq
    {Stream : Type}
    [ByteStream Stream]
    {options : WaitOptions}
    {started : Nat}
    {limits : Limits}
    {first : Inquiry Stream}
    {polls : List (Inquiry Stream)}
    {step : Step (Cnc Stream) Unit}
    (waits : Waits options started limits first polls step) :
    step.state.device.config = first.cnc.device.config := by
  induction waits with
  | cancelled _ _ => rfl
  | @ended first _ _ => exact first.config_step limits
  | @resumed first _ _ _ _ _ _ induction => exact induction.trans (first.config_step limits)

namespace Cnc

variable {Stream : Type} [ByteStream Stream]

theorem config_wait
    (cnc : Cnc Stream)
    (options : WaitOptions)
    (clock : Clock) :
    (cnc.wait options clock).state.device.config = cnc.device.config := by
  by_cases named : options.IsNamed clock
  · exact (cnc.waits_wait named).config_eq
  · rw [(cnc.wait_of_not_isNamed named).2]

theorem poll_of_unconfigured
    {cnc : Cnc Stream}
    (unconfigured : cnc.device.isConfigured = false)
    (limits : Limits)
    (clock : Clock) :
    cnc.poll limits clock = .refuse .notConfigured cnc clock := by
  simp only [poll, Device.executeWithin, unconfigured]
  rfl

/-- A wait on a board without a configuration ends before or with its first question. -/
theorem wait_of_unconfigured
    {cnc : Cnc Stream}
    (unconfigured : cnc.device.isConfigured = false)
    (options : WaitOptions)
    (clock : Clock) :
    ∃ error, cnc.wait options clock = .refuse error cnc clock ∧
      (options.IsNamed clock → error ≠ .clockOverflow) := by
  by_cases named : options.IsNamed clock
  · rw [(cnc.wait_of_isNamed named).2]
    rw [waitFrom_eq options clock.now (options.deadline clock) ⟨cnc, clock⟩]
    split
    · exact ⟨.cancelled, rfl, by simp⟩
    · rw [Inquiry.step, poll_of_unconfigured unconfigured]
      exact ⟨.notConfigured, rfl, by simp⟩
  · rw [(cnc.wait_of_not_isNamed named).2]
    exact ⟨.clockOverflow, rfl, fun named' => (named named').elim⟩

/-! ### Tasks -/

/-- The step of a task. -/
def run (cnc : Cnc Stream) (task : CncTask) (clock : Clock) : Step (Cnc Stream) Unit :=
  match task with
  | .configure config => cnc.configure config clock
  | .configureHoming config => cnc.configureHoming config clock
  | .enable => cnc.enable clock
  | .disable => cnc.disable clock
  | .moveSteps milliseconds dx dy dz => cnc.moveSteps milliseconds dx dy dz clock
  | .moveAt vx vy vz => cnc.moveAt vx vy vz clock
  | .homing => cnc.homing clock
  | .setRelay on => cnc.setRelay on clock
  | .isBusy => (cnc.isBusy clock).map fun _ => ()
  | .wait options => cnc.wait options clock

theorem start_of_unconfigured
    {cnc : Cnc Stream}
    (unconfigured : cnc.device.isConfigured = false)
    (command : Command)
    (next : CncState)
    (clock : Clock) :
    cnc.start command next clock = .refuse .notConfigured cnc clock := by
  simp only [start, Device.execute, Device.executeWithin, unconfigured]
  rfl

theorem run_of_unconfigured
    {cnc : Cnc Stream}
    (unconfigured : cnc.device.isConfigured = false)
    {task : CncTask}
    (other : task.preparation? = none)
    (clock : Clock) :
    ∃ error, cnc.run task clock = .refuse error cnc clock ∧
      (task.IsNamed clock → error ≠ .clockOverflow) := by
  cases task with
  | configure config => cases other
  | enable => cases other
  | disable => cases other
  | configureHoming config =>
    refine ⟨.notConfigured, ?_, by simp⟩
    rw [run, configureHoming, Device.updateConfig_of_unconfigured unconfigured]
    rfl
  | moveSteps milliseconds dx dy dz =>
    simp only [run, moveSteps]
    split
    · exact ⟨_, rfl, by simp⟩
    · split
      · exact ⟨_, rfl, by simp [CommandError.toError]⟩
      · exact ⟨_, start_of_unconfigured unconfigured _ _ clock, by simp⟩
  | moveAt vx vy vz =>
    simp only [run, moveAt]
    split
    · exact ⟨_, rfl, by simp [CommandError.toError]⟩
    · exact ⟨_, start_of_unconfigured unconfigured _ _ clock, by simp⟩
  | homing => exact ⟨_, start_of_unconfigured unconfigured _ _ clock, by simp⟩
  | setRelay on =>
    refine ⟨.notConfigured, ?_, by simp⟩
    simp only [run, setRelay, Device.execute, Device.executeWithin, unconfigured]
    rfl
  | isBusy =>
    refine ⟨.notConfigured, ?_, by simp⟩
    rw [run, isBusy, poll_of_unconfigured unconfigured]
    rfl
  | wait options =>
    rcases wait_of_unconfigured unconfigured options clock with ⟨error, refused, named⟩
    exact ⟨error, refused, fun all => named (all options rfl)⟩

theorem config_start
    (cnc : Cnc Stream)
    (command : Command)
    (next : CncState)
    (clock : Clock) :
    (cnc.start command next clock).state.device.config = cnc.device.config := by
  simp only [start]
  split <;> exact cnc.device.config_executeWithin command .none clock

theorem isConfigured_run
    {cnc : Cnc Stream}
    (configured : cnc.device.isConfigured = true)
    {task : CncTask}
    (other : task.preparation? = none)
    (clock : Clock) :
    (cnc.run task clock).state.device.isConfigured = true := by
  have kept : ∀ {finish : Cnc Stream}, finish.device.config = cnc.device.config →
      finish.device.isConfigured = true := by
    intro finish same
    rw [Device.isConfigured, same]
    exact configured
  cases task with
  | configure config => cases other
  | enable => cases other
  | disable => cases other
  | configureHoming config => exact Device.isConfigured_updateConfig configured config clock
  | moveSteps milliseconds dx dy dz =>
    simp only [run, moveSteps]
    split
    · exact configured
    · split
      · exact configured
      · exact kept (cnc.config_start _ _ clock)
  | moveAt vx vy vz =>
    simp only [run, moveAt]
    split
    · exact configured
    · exact kept (cnc.config_start _ _ clock)
  | homing => exact kept (cnc.config_start _ _ clock)
  | setRelay on => exact kept (cnc.device.config_executeWithin _ .none clock)
  | isBusy => exact kept (Inquiry.config_step ⟨cnc, clock⟩ .none)
  | wait options => exact kept (cnc.config_wait options clock)

/-- The stepper board as a kind of board. -/
def controller (Stream : Type) [ByteStream Stream] : Controller Stream CncConfig where
  Board := Cnc (Logged Stream)
  Task := CncTask
  device := Cnc.device
  withDevice := withDevice
  run := run
  preparation? := CncTask.preparation?
  IsNamed := CncTask.IsNamed
  device_withDevice _ _ := rfl
  run_of_preparation := by
    intro task preparation prepares board clock
    cases task <;> cases prepares <;> rfl
  refuses other _ clock unconfigured := run_of_unconfigured unconfigured other clock
  stays other _ clock configured := isConfigured_run configured other clock

end Cnc

/-- All kinds of boards wait for a configuration before they send anything else. -/
theorem gated_until_configured
    {Stream Config : Type}
    [ByteStream Stream]
    [DeviceConfiguration Config]
    (session : Session (Logged Stream)) :
    (∀ name history, (Device.controller Stream Config).Gated (Device.new name session) history) ∧
      (∀ history, (Motor.controller Stream).Gated (Motor.new session) history) ∧
        ∀ history, (Cnc.controller Stream).Gated (Cnc.new session) history :=
  ⟨fun _ => Controller.gated _ rfl, Controller.gated _ rfl, Controller.gated _ rfl⟩

end RoverLink
