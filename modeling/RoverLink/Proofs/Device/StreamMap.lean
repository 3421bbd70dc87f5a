import RoverLink.Proofs.Device.Task

/-!
# Devices along maps of streams

A task over a mapped stream is the task, and then mapping the stream, so the
log of a stream can be kept or left out without any difference.
-/

namespace RoverLink.Device

variable {Source Target Config : Type}

/-- The device over a mapped stream. -/
def mapStream (map : Source → Target) (device : Device Source Config) : Device Target Config :=
  ⟨device.name, device.session.mapStream map, device.config, device.enabled⟩

variable [ByteStream Source] [ByteStream Target] (map : StreamMap Source Target)

theorem transmit_map
    (device : Device Source Config)
    (command : Command)
    (limits : Limits)
    (clock : Clock) :
    (device.mapStream map.toFun).transmit command limits clock =
      (device.transmit command limits clock).within (mapStream map.toFun) := by
  simp only [transmit]
  rw [show (device.mapStream map.toFun).session = device.session.mapStream map.toFun from rfl,
    Session.sendWithin_map]
  rfl

theorem setEnabled_map
    (device : Device Source Config)
    (on : Bool)
    (clock : Clock) :
    (device.mapStream map.toFun).setEnabled on clock =
      (device.setEnabled on clock).within (mapStream map.toFun) := by
  simp only [setEnabled, transmit_map, Step.result_within]
  cases (device.transmit (switchCommand on) .none clock).result <;> rfl

theorem upload_map
    (device : Device Source Config)
    (config : Config)
    (command : Command)
    (clock : Clock) :
    (device.mapStream map.toFun).upload config command clock =
      (device.upload config command clock).within (mapStream map.toFun) := by
  simp only [upload, transmit_map, Step.result_within]
  cases (device.transmit command .none clock).result <;> rfl

theorem ensureDisabled_map
    (device : Device Source Config)
    (clock : Clock) :
    (device.mapStream map.toFun).ensureDisabled clock =
      (device.ensureDisabled clock).within (mapStream map.toFun) := by
  simp only [ensureDisabled, disable, setEnabled_map]
  rw [show (device.mapStream map.toFun).enabled = device.enabled from rfl]
  split <;> rfl

variable [DeviceConfiguration Config]

/-- A task over a mapped stream is the task, and then mapping the stream. -/
theorem run_map
    (device : Device Source Config)
    (task : DeviceTask Config)
    (clock : Clock) :
    (device.mapStream map.toFun).run task clock =
      (device.run task clock).within (mapStream map.toFun) := by
  cases task with
  | configure config =>
    simp only [run, configure]
    cases uploadCommand config with
    | error error => rfl
    | ok command =>
      simp only [ensureDisabled_map, Step.result_within]
      cases (device.ensureDisabled clock).result with
      | error error => rfl
      | ok => exact upload_map map _ config command _
  | updateConfig config =>
    simp only [run, updateConfig]
    rw [show (device.mapStream map.toFun).requireConfig = device.requireConfig from rfl]
    cases device.requireConfig with
    | error error => rfl
    | ok _ =>
      cases uploadCommand config with
      | error error => rfl
      | ok command => exact upload_map map device config command clock
  | enable => exact setEnabled_map map device true clock
  | disable => exact setEnabled_map map device false clock
  | execute command limits =>
    simp only [run, executeWithin, transmit_map]
    rw [show (device.mapStream map.toFun).isConfigured = device.isConfigured from rfl]
    split <;> rfl

end RoverLink.Device
