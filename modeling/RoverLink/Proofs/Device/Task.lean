import RoverLink.Proofs.Device.Transmission

/-!
# The tasks of a device

A device carries out a task by sending at most two commands, which
`transmissions` lists.  Nothing else is written, and the configuration and the
switch of the device follow from the commands that were acknowledged
(`follows_run`).  `Went` lists the ways in which a task can go.
-/

namespace RoverLink

/-! ### Tasks -/

/-- What a device can be told to do. -/
inductive DeviceTask (Config : Type) where
  | configure (config : Config)
  | updateConfig (config : Config)
  | enable
  | disable
  | execute (command : Command) (limits : Limits)

/-- The configuration that a task is about. -/
def DeviceTask.config? {Config : Type} : DeviceTask Config → Option Config
  | .configure config => some config
  | .updateConfig config => some config
  | _ => none

namespace Device

section

variable {Stream Config : Type} [ByteStream Stream]

/-- A command that the device sends now. -/
def transmission
    (device : Device Stream Config)
    (purpose : Purpose Config)
    (command : Command)
    (limits : Limits)
    (clock : Clock) :
    Transmission Config where
  purpose
  command
  frame := (device.session.codec.encode command).1
  attempts := device.session.attempts command limits clock

/-- The command that switches the outputs. -/
def switching (device : Device Stream Config) (on : Bool) (clock : Clock) : Transmission Config :=
  device.transmission (.switch on) (switchCommand on) .none clock

/-- The command that uploads a configuration. -/
def uploading
    (device : Device Stream Config)
    (config : Config)
    (command : Command)
    (clock : Clock) :
    Transmission Config :=
  device.transmission (.upload config) command .none clock

variable [DeviceConfiguration Config]

/-- The step of a task. -/
def run
    (device : Device Stream Config)
    (task : DeviceTask Config)
    (clock : Clock) :
    Step (Device Stream Config) Unit :=
  match task with
  | .configure config => device.configure config clock
  | .updateConfig config => device.updateConfig config clock
  | .enable => device.enable clock
  | .disable => device.disable clock
  | .execute command limits => (device.executeWithin command limits clock).map fun _ => ()

/-- The commands that the device sends before it uploads a configuration in `configure`. -/
def precautions (device : Device Stream Config) (clock : Clock) : List (Transmission Config) :=
  if device.enabled then [device.switching false clock] else []

/-- The commands that the device sends for a task, in their order. -/
def transmissions
    (device : Device Stream Config)
    (task : DeviceTask Config)
    (clock : Clock) :
    List (Transmission Config) :=
  match task with
  | .configure config =>
    match uploadCommand config with
    | .error _ => []
    | .ok command =>
      let off := device.ensureDisabled clock
      device.precautions clock ++
        match off.result with
        | .error _ => []
        | .ok () => [off.state.uploading config command off.clock]
  | .updateConfig config =>
    match device.requireConfig, uploadCommand config with
    | .ok _, .ok command => [device.uploading config command clock]
    | _, _ => []
  | .enable => [device.switching true clock]
  | .disable => [device.switching false clock]
  | .execute command limits =>
    if device.isConfigured then [device.transmission .order command limits clock] else []

end

/-! ### What follows from transmissions -/

/-- A device after transmissions. -/
structure Follows
    {Stream Config : Type}
    (device : Device (Logged Stream) Config)
    (transmissions : List (Transmission Config))
    (finish : Device (Logged Stream) Config) :
    Prop where
  /-- The configuration is the last one that was uploaded. -/
  config : finish.config = (Transmission.lastUploaded transmissions).or device.config
  /-- The device is on if it was last switched on. -/
  enabled : finish.enabled = (Transmission.lastSwitched transmissions).getD device.enabled
  /-- Nothing else was written. -/
  transfers :
    finish.session.stream.transfers =
      device.session.stream.transfers ++ transmissions.flatMap Transmission.transfers

theorem Follows.refl
    {Stream Config : Type}
    (device : Device (Logged Stream) Config) :
    Follows device [] device where
  config := rfl
  enabled := rfl
  transfers := (List.append_nil _).symm

theorem Follows.trans
    {Stream Config : Type}
    {device middle finish : Device (Logged Stream) Config}
    {earlier later : List (Transmission Config)}
    (first : Follows device earlier middle)
    (second : Follows middle later finish) :
    Follows device (earlier ++ later) finish where
  config := by rw [second.config, first.config, Transmission.lastUploaded_append, Option.or_assoc]
  enabled := by
    rw [second.enabled, first.enabled, Transmission.lastSwitched_append]
    cases Transmission.lastSwitched later <;> rfl
  transfers := by
    rw [second.transfers, first.transfers, List.flatMap_append, List.append_assoc]

section

variable {Stream Config : Type} [ByteStream Stream]

/-! ### One command -/

theorem concluded_transmit
    (device : Device Stream Config)
    (purpose : Purpose Config)
    (command : Command)
    (limits : Limits)
    (clock : Clock) :
    Concluded (device.transmission purpose command limits clock).attempts.getLast?
      (device.transmit command limits clock).result :=
  Session.concluded_sendWithin device.session command limits clock

theorem transfers_transmit
    (device : Device (Logged Stream) Config)
    (purpose : Purpose Config)
    (command : Command)
    (limits : Limits)
    (clock : Clock) :
    (device.transmit command limits clock).state.session.stream.transfers =
      device.session.stream.transfers ++
        [device.transmission purpose command limits clock].flatMap Transmission.transfers := by
  rw [List.flatMap_singleton]
  exact Session.transfers_sendWithin device.session command limits clock

theorem isAcknowledged_transmission
    (device : Device Stream Config)
    (purpose : Purpose Config)
    (command : Command)
    (limits : Limits)
    (clock : Clock) :
    (device.transmission purpose command limits clock).isAcknowledged =
      (device.transmit command limits clock).result.isOk := by
  rw [Bool.eq_iff_iff,
    Transmission.isAcknowledged_iff_of_concluded (device.concluded_transmit purpose _ _ _)]
  cases (device.transmit command limits clock).result <;> simp [Except.isOk, Except.toBool]

theorem switched?_switching
    (device : Device Stream Config)
    (on : Bool)
    (clock : Clock) :
    (device.switching on clock).switched? =
      if (device.transmit (switchCommand on) .none clock).result.isOk then some on else none := by
  rw [← device.isAcknowledged_transmission (.switch on)]
  rfl

theorem uploaded?_uploading
    (device : Device Stream Config)
    (config : Config)
    (command : Command)
    (clock : Clock) :
    (device.uploading config command clock).uploaded? =
      if (device.transmit command .none clock).result.isOk then some config else none := by
  rw [← device.isAcknowledged_transmission (.upload config)]
  rfl

/-- Switching changes the switch if it is acknowledged, and nothing else. -/
theorem setEnabled_eq
    (device : Device Stream Config)
    (on : Bool)
    (clock : Clock) :
    device.setEnabled on clock =
      let sent := device.transmit (switchCommand on) .none clock
      ⟨sent.result.map fun _ => (),
        { sent.state with
          enabled := (device.switching on clock).switched?.getD device.enabled },
        sent.clock⟩ := by
  rw [switched?_switching]
  simp only [setEnabled]
  split
  next reply answered =>
    rw [answered]
    rfl
  next error failed =>
    rw [failed]
    rfl

/-- An upload changes the configuration if it is acknowledged, and nothing else. -/
theorem upload_eq
    (device : Device Stream Config)
    (config : Config)
    (command : Command)
    (clock : Clock) :
    device.upload config command clock =
      let sent := device.transmit command .none clock
      ⟨(sent.result.map fun _ => ()).mapError rejection,
        { sent.state with
          config := (device.uploading config command clock).uploaded?.or device.config },
        sent.clock⟩ := by
  rw [uploaded?_uploading]
  simp only [upload]
  split
  next reply answered =>
    rw [answered]
    rfl
  next error failed =>
    rw [failed]
    rfl

theorem follows_transmit
    (device : Device (Logged Stream) Config)
    (command : Command)
    (limits : Limits)
    (clock : Clock) :
    Follows device [device.transmission .order command limits clock]
      (device.transmit command limits clock).state where
  config := rfl
  enabled := rfl
  transfers := device.transfers_transmit .order command limits clock

theorem follows_setEnabled
    (device : Device (Logged Stream) Config)
    (on : Bool)
    (clock : Clock) :
    Follows device [device.switching on clock] (device.setEnabled on clock).state := by
  rw [setEnabled_eq]
  refine ⟨rfl, ?_, device.transfers_transmit (.switch on) (switchCommand on) .none clock⟩
  rw [Transmission.lastSwitched_singleton]

theorem follows_upload
    (device : Device (Logged Stream) Config)
    (config : Config)
    (command : Command)
    (clock : Clock) :
    Follows device [device.uploading config command clock]
      (device.upload config command clock).state := by
  rw [upload_eq]
  refine ⟨?_, rfl, device.transfers_transmit (.upload config) command .none clock⟩
  rw [Transmission.lastUploaded_singleton]

theorem follows_ensureDisabled
    (device : Device (Logged Stream) Config)
    (clock : Clock) :
    Follows device (device.precautions clock) (device.ensureDisabled clock).state := by
  rw [precautions, ensureDisabled]
  split
  · exact device.follows_setEnabled false clock
  · exact .refl device

theorem settles_switching
    (device : Device Stream Config)
    (on : Bool)
    (clock : Clock) :
    (device.switching on clock).Settles (device.setEnabled on clock).result := by
  rw [setEnabled_eq]
  exact Transmission.settles_of_concluded (device.concluded_transmit (.switch on) _ _ _)
    (by simp [switching, transmission])

theorem settles_uploading
    (device : Device Stream Config)
    (config : Config)
    (command : Command)
    (clock : Clock) :
    (device.uploading config command clock).Settles
      (device.upload config command clock).result := by
  rw [upload_eq]
  exact Transmission.settles_of_concluded_upload
    (device.concluded_transmit (.upload config) _ _ _) rfl

/-! ### One task -/

variable [DeviceConfiguration Config]

/-- The purpose of the command of a task that needs no other one. -/
inductive Serves (device : Device Stream Config) : DeviceTask Config → Purpose Config → Prop where
  | configure {config : Config}
      (disabled : device.enabled = false) :
      Serves device (.configure config) (.upload config)
  | updateConfig {config : Config} : Serves device (.updateConfig config) (.upload config)
  | enable : Serves device .enable (.switch true)
  | disable : Serves device .disable (.switch false)
  | execute {command : Command} {limits : Limits} :
      Serves device (.execute command limits) .order

/-- The ways in which a task can go. -/
inductive Went (device : Device Stream Config) :
    DeviceTask Config → List (Transmission Config) → Except Error Unit → Prop where
  /-- The configuration cannot be uploaded. -/
  | unusable {task : DeviceTask Config} {config : Config} {reason error : Error}
      (about : task.config? = some config)
      (failed : uploadCommand config = .error reason) :
      Went device task [] (.error error)
  | unconfigured {task : DeviceTask Config} :
      Went device task [] (.error .notConfigured)
  /-- One command is sent and settles the task. -/
  | sent {task : DeviceTask Config} {transmission : Transmission Config}
      {result : Except Error Unit}
      (serves : Serves device task transmission.purpose)
      (settled : transmission.Settles result) :
      Went device task [transmission] result
  /-- A device that is on cannot be switched off. -/
  | blocked {config : Config} {off : Transmission Config} {error : Error}
      (enabled : device.enabled = true)
      (purpose : off.purpose = .switch false)
      (settled : off.Settles (.error error)) :
      Went device (.configure config) [off] (.error error)
  /-- A device that is on is switched off before its configuration is uploaded. -/
  | replaced {config : Config} {off upload : Transmission Config} {result : Except Error Unit}
      (enabled : device.enabled = true)
      (offPurpose : off.purpose = .switch false)
      (acknowledged : off.isAcknowledged = true)
      (uploadPurpose : upload.purpose = .upload config)
      (settled : upload.Settles result) :
      Went device (.configure config) [off, upload] result

/-- Every task goes in one of these ways. -/
theorem went_run
    (device : Device Stream Config)
    (task : DeviceTask Config)
    (clock : Clock) :
    Went device task (device.transmissions task clock) (device.run task clock).result := by
  cases task with
  | configure config =>
    simp only [transmissions, run, configure, precautions, ensureDisabled]
    cases usable : uploadCommand config with
    | error error => exact .unusable rfl usable
    | ok command =>
      cases enabled : device.enabled with
      | false => exact .sent (.configure enabled) (device.settles_uploading config command clock)
      | true =>
        have settled := device.settles_switching false clock
        simp only [if_true, disable]
        cases outcome : (device.setEnabled false clock).result with
        | error error => exact .blocked enabled rfl (outcome ▸ settled)
        | ok =>
          exact .replaced enabled rfl (settled.acknowledged.mpr outcome) rfl
            (settles_uploading _ config command _)
  | updateConfig config =>
    simp only [transmissions, run, updateConfig, requireConfig]
    cases device.config with
    | none => exact .unconfigured
    | some _ =>
      cases usable : uploadCommand config with
      | error error => exact .unusable rfl usable
      | ok command => exact .sent .updateConfig (device.settles_uploading config command clock)
  | enable => exact .sent .enable (device.settles_switching true clock)
  | disable => exact .sent .disable (device.settles_switching false clock)
  | execute command limits =>
    simp only [transmissions, run, executeWithin]
    split
    · exact .sent .execute
        (Transmission.settles_of_concluded (device.concluded_transmit .order _ _ _)
          (by simp [transmission]))
    · exact .unconfigured

/-- What a task leaves behind follows from what was sent for it. -/
theorem follows_run
    (device : Device (Logged Stream) Config)
    (task : DeviceTask Config)
    (clock : Clock) :
    Follows device (device.transmissions task clock) (device.run task clock).state := by
  cases task with
  | configure config =>
    simp only [transmissions, run, configure]
    cases uploadCommand config with
    | error error => exact .refl device
    | ok command =>
      have disabled := device.follows_ensureDisabled clock
      cases outcome : (device.ensureDisabled clock).result with
      | error error => simpa [outcome] using disabled
      | ok => exact disabled.trans (follows_upload _ config command _)
  | updateConfig config =>
    simp only [transmissions, run, updateConfig]
    cases device.requireConfig with
    | error error => exact .refl device
    | ok _ =>
      cases uploadCommand config with
      | error error => exact .refl device
      | ok command => exact device.follows_upload config command clock
  | enable => exact device.follows_setEnabled true clock
  | disable => exact device.follows_setEnabled false clock
  | execute command limits =>
    simp only [transmissions, run, executeWithin]
    split
    · exact device.follows_transmit command limits clock
    · exact .refl device

end

/-! ### What every way of a task keeps -/

namespace Went

variable {Stream Config : Type} [DeviceConfiguration Config]
variable {device : Device Stream Config} {task : DeviceTask Config}
variable {transmissions : List (Transmission Config)} {result : Except Error Unit}

/-- `configure` uploads last, and not before the device is off. -/
theorem exists_before_upload
    (went : Went device task transmissions result)
    {config other : Config}
    (configures : task = .configure config)
    {upload : Transmission Config}
    (member : upload ∈ transmissions)
    (purpose : upload.purpose = .upload other) :
    ∃ before,
      transmissions = before ++ [upload] ∧
        (Transmission.lastSwitched before).getD device.enabled = false ∧
        (device.enabled = true →
          ∃ off, before = [off] ∧ off.purpose = .switch false ∧ off.isAcknowledged = true) := by
  cases went with
  | unusable _ _ => simp at member
  | unconfigured => simp at member
  | sent serves _ =>
    cases configures
    cases List.mem_singleton.mp member
    rw [purpose] at serves
    cases serves with
    | configure disabled => exact ⟨[], rfl, disabled, by simp [disabled]⟩
  | blocked _ offPurpose _ =>
    cases List.mem_singleton.mp member
    simp [offPurpose] at purpose
  | @replaced _ off last _ _ offPurpose acknowledged _ _ =>
    have isLast : upload = last := by
      rcases List.mem_cons.mp member with rfl | later
      · simp [offPurpose] at purpose
      · exact List.mem_singleton.mp later
    refine ⟨[off], by rw [isLast]; rfl, ?_, fun _ => ⟨off, rfl, offPurpose, acknowledged⟩⟩
    rw [Transmission.lastSwitched_singleton,
      Transmission.switched?_of_acknowledged offPurpose acknowledged]
    rfl

/-- A device is off when its configuration has been uploaded by `configure`. -/
theorem of_configured
    {config : Config}
    (went : Went device (.configure config) transmissions (.ok ())) :
    ∃ before upload,
      transmissions = before ++ [upload] ∧ upload.purpose = .upload config ∧
        (device.enabled = false ∧ before = [] ∨
          ∃ off, device.enabled = true ∧ before = [off] ∧ off.switched? = some false) := by
  generalize about : DeviceTask.configure config = task at went
  cases went with
  | @sent _ transmission _ serves _ =>
    subst about
    generalize purpose : transmission.purpose = served at serves
    cases serves with
    | configure disabled => exact ⟨[], transmission, rfl, purpose, .inl ⟨disabled, rfl⟩⟩
  | @replaced _ off upload _ enabled offPurpose acknowledged uploadPurpose _ =>
    cases about
    exact ⟨[off], upload, rfl, uploadPurpose,
      .inr ⟨off, enabled, rfl, Transmission.switched?_of_acknowledged offPurpose acknowledged⟩⟩

/-- A task that fails uploads nothing, and only a disable step can have switched the device. -/
theorem unchanged
    {error : Error}
    (went : Went device task transmissions (.error error)) :
    Transmission.lastUploaded transmissions = none ∧
      (Transmission.lastSwitched transmissions = none ∨
        ∃ config off, task = .configure config ∧ off ∈ transmissions ∧
          off.purpose = .switch false ∧ off.isAcknowledged = true) := by
  cases went with
  | unusable _ _ => exact ⟨rfl, .inl rfl⟩
  | unconfigured => exact ⟨rfl, .inl rfl⟩
  | sent _ settled =>
    rw [Transmission.lastUploaded_singleton, Transmission.lastSwitched_singleton]
    exact ⟨settled.unchanged.2, .inl settled.unchanged.1⟩
  | blocked _ _ settled =>
    rw [Transmission.lastUploaded_singleton, Transmission.lastSwitched_singleton]
    exact ⟨settled.unchanged.2, .inl settled.unchanged.1⟩
  | @replaced config off _ _ _ offPurpose acknowledged _ settled =>
    constructor
    · rw [← List.singleton_append, Transmission.lastUploaded_append,
        Transmission.lastUploaded_singleton, Transmission.lastUploaded_singleton,
        settled.unchanged.2, Transmission.uploaded?, offPurpose]
      rfl
    · exact .inr ⟨config, off, rfl, List.mem_cons_self, offPurpose, acknowledged⟩

/-- A configuration that can be uploaded is rejected exactly if its upload is refused. -/
theorem rejected_iff
    (went : Went device task transmissions result)
    (usable : ∀ config, task.config? = some config → ∃ command, uploadCommand config = .ok command)
    (code : Int32)
    (text : Option String) :
    result = .error (.configurationRejected code text) ↔
      ∃ upload ∈ transmissions, ∃ config,
        upload.purpose = .upload config ∧ upload.IsRefused code text := by
  cases went with
  | unusable about failed =>
    rcases usable _ about with ⟨command, succeeded⟩
    simp [failed] at succeeded
  | unconfigured => simp
  | sent _ settled => simp [settled.rejected, and_comm]
  | blocked _ _ settled => simp [settled.rejected, and_comm]
  | replaced _ offPurpose _ _ settled => simp [settled.rejected, offPurpose, and_comm]

end Went

end Device

end RoverLink
