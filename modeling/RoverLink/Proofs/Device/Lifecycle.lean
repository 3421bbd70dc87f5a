import RoverLink.Proofs.Codec.Requests
import RoverLink.Proofs.Device.StreamMap

/-!
# The life of a device

The configuration of a device is the last one whose upload was acknowledged,
and the device is on exactly if the last acknowledged switch put it on
(`follows_after`).  `follows_lifecycle` says in addition what a single call may
do, and how a call that fails leaves the device.

The stream keeps a log of what was sent, which changes nothing about the calls
(`after_forget`).
-/

namespace RoverLink

/-- A task that a device is given, and what its stream does on its own before. -/
structure DeviceCall (Stream Config : Type) where
  meanwhile : Stream → Stream
  task : DeviceTask Config
  clock : Clock

/-- A task that is given to a device whose stream does nothing on its own. -/
def DeviceCall.prompt
    {Stream Config : Type}
    (task : DeviceTask Config)
    (clock : Clock) :
    DeviceCall Stream Config :=
  ⟨id, task, clock⟩

/-- Whether the frame of a transmission holds its command, and the command serves its purpose. -/
def Transmission.Fits
    {Config : Type}
    [DeviceConfiguration Config]
    (transmission : Transmission Config) :
    Prop :=
  Request.read transmission.frame = .ok transmission.command ∧
    match transmission.purpose with
    | .switch on => transmission.command = Device.switchCommand on
    | .upload config => Device.uploadCommand config = .ok transmission.command
    | .order => True

/-- Whether a command with this purpose may be sent for a task. -/
def Purpose.IsFor {Config : Type} (purpose : Purpose Config) (task : DeviceTask Config) : Prop :=
  match purpose with
  | .switch _ => True
  | .upload config => task.config? = some config
  | .order => ∃ command limits, task = .execute command limits

namespace Device

variable {Stream Config : Type}

/-- The device when a call begins. -/
def ready
    (device : Device (Logged Stream) Config)
    (call : DeviceCall Stream Config) :
    Device (Logged Stream) Config :=
  { device with
    session := { device.session with stream := device.session.stream.meanwhile call.meanwhile } }

variable [ByteStream Stream] [DeviceConfiguration Config]

/-- The step of a call. -/
def perform
    (device : Device (Logged Stream) Config)
    (call : DeviceCall Stream Config) :
    Step (Device (Logged Stream) Config) Unit :=
  (device.ready call).run call.task call.clock

/-- The commands that the device sends in a call. -/
def sent
    (device : Device (Logged Stream) Config)
    (call : DeviceCall Stream Config) :
    List (Transmission Config) :=
  (device.ready call).transmissions call.task call.clock

/-- The device after calls. -/
def after
    (device : Device (Logged Stream) Config)
    (calls : List (DeviceCall Stream Config)) :
    Device (Logged Stream) Config :=
  calls.foldl (fun device call => (device.perform call).state) device

/-- All commands that the device sends in calls. -/
def sentIn
    (device : Device (Logged Stream) Config) :
    List (DeviceCall Stream Config) → List (Transmission Config)
  | [] => []
  | call :: calls => device.sent call ++ sentIn (device.perform call).state calls

/-- Keeping the log changes nothing about a call. -/
theorem perform_forget
    (device : Device (Logged Stream) Config)
    (call : DeviceCall Stream Config) :
    (device.perform call).within (mapStream Logged.stream) =
      ((device.mapStream Logged.stream).mapStream call.meanwhile).run call.task call.clock :=
  (run_map Logged.forget (device.ready call) _ _).symm

/-- Keeping the log changes nothing about calls one after the other. -/
theorem after_forget
    (device : Device (Logged Stream) Config)
    (calls : List (DeviceCall Stream Config)) :
    (device.after calls).mapStream Logged.stream =
      calls.foldl
        (fun bare call => ((bare.mapStream call.meanwhile).run call.task call.clock).state)
        (device.mapStream Logged.stream) := by
  induction calls generalizing device with
  | nil => rfl
  | cons call calls induction =>
    rw [List.foldl_cons, ← perform_forget, Step.state_within, ← induction]
    rfl

/-! ### Calls one after the other -/

theorem follows_perform
    (device : Device (Logged Stream) Config)
    (call : DeviceCall Stream Config) :
    Follows device (device.sent call) (device.perform call).state := by
  have run := (device.ready call).follows_run call.task call.clock
  exact ⟨run.config, run.enabled, run.transfers⟩

/-- What calls leave behind follows from all that was sent in them. -/
theorem follows_after
    (device : Device (Logged Stream) Config)
    (calls : List (DeviceCall Stream Config)) :
    Follows device (device.sentIn calls) (device.after calls) := by
  induction calls generalizing device with
  | nil => exact .refl device
  | cons call calls induction =>
    exact (device.follows_perform call).trans (induction (device.perform call).state)

@[simp]
theorem after_append
    (device : Device (Logged Stream) Config)
    (calls others : List (DeviceCall Stream Config)) :
    device.after (calls ++ others) = (device.after calls).after others :=
  List.foldl_append

@[simp]
theorem sentIn_append
    (device : Device (Logged Stream) Config)
    (calls others : List (DeviceCall Stream Config)) :
    device.sentIn (calls ++ others) =
      device.sentIn calls ++ (device.after calls).sentIn others := by
  induction calls generalizing device with
  | nil => rfl
  | cons call calls induction =>
    simp only [List.cons_append, sentIn, induction, List.append_assoc]
    rfl

/-- What is sent for a task fits its purpose, and the purpose is one of the task. -/
theorem fits_of_mem_transmissions
    {device : Device (Logged Stream) Config}
    {task : DeviceTask Config}
    {clock : Clock}
    {transmission : Transmission Config}
    (member : transmission ∈ device.transmissions task clock) :
    transmission.Fits ∧ transmission.purpose.IsFor task := by
  have switching : ∀ on, (device.switching on clock).Fits ∧
      (device.switching on clock).purpose.IsFor task :=
    fun on => ⟨⟨Codec.read_encode _ _, rfl⟩, trivial⟩
  cases task with
  | configure config =>
    simp only [transmissions, precautions] at member
    split at member
    · simp at member
    next command usable =>
      rcases List.mem_append.mp member with early | late
      · split at early
        · rw [List.mem_singleton.mp early]
          exact switching false
        · simp at early
      · split at late
        · simp at late
        · rw [List.mem_singleton.mp late]
          exact ⟨⟨Codec.read_encode _ _, usable⟩, rfl⟩
  | updateConfig config =>
    simp only [transmissions] at member
    split at member
    next command _ usable =>
      rw [List.mem_singleton.mp member]
      exact ⟨⟨Codec.read_encode _ _, usable⟩, rfl⟩
    · simp at member
  | enable =>
    rw [List.mem_singleton.mp member]
    exact switching true
  | disable =>
    rw [List.mem_singleton.mp member]
    exact switching false
  | execute command limits =>
    simp only [transmissions] at member
    split at member
    · rw [List.mem_singleton.mp member]
      exact ⟨⟨Codec.read_encode _ _, trivial⟩, command, limits, rfl⟩
    · simp at member

theorem fits_of_mem_sentIn
    {device : Device (Logged Stream) Config}
    {calls : List (DeviceCall Stream Config)}
    {transmission : Transmission Config}
    (member : transmission ∈ device.sentIn calls) :
    transmission.Fits := by
  induction calls generalizing device with
  | nil => simp [sentIn] at member
  | cons call calls induction =>
    rcases List.mem_append.mp member with now | later
    · exact (fits_of_mem_transmissions now).1
    · exact induction later

/-! ### What a call may do -/

/-- A configuration that cannot be uploaded leaves the device as it is. -/
theorem run_of_unusable
    {device : Device (Logged Stream) Config}
    {task : DeviceTask Config}
    {config : Config}
    {reason : Error}
    (about : task.config? = some config)
    (failed : uploadCommand config = .error reason)
    (clock : Clock) :
    device.transmissions task clock = [] ∧
      ∃ error, device.run task clock = ⟨.error error, device, clock⟩ := by
  cases task with
  | configure other =>
    cases about
    simp [transmissions, run, configure, failed, Step.refuse]
  | updateConfig other =>
    cases about
    simp only [transmissions, run, updateConfig, failed]
    cases device.requireConfig <;> simp [Step.refuse]
  | enable => simp [DeviceTask.config?] at about
  | disable => simp [DeviceTask.config?] at about
  | execute command limits => simp [DeviceTask.config?] at about

/-- A device counts as off when it has been configured. -/
theorem enabled_of_configured
    {device : Device (Logged Stream) Config}
    {call : DeviceCall Stream Config}
    {config : Config}
    (configures : call.task = .configure config)
    (succeeded : (device.perform call).result = .ok ()) :
    (device.perform call).state.enabled = false := by
  have went : Went (device.ready call) call.task (device.sent call) (device.perform call).result :=
    (device.ready call).went_run call.task call.clock
  rw [configures, succeeded] at went
  rcases went.of_configured with ⟨before, upload, sent, purpose, prepared⟩
  have unswitched : upload.switched? = none := by
    rw [Transmission.switched?, purpose]
  rw [(device.follows_perform call).enabled, sent, Transmission.lastSwitched_append,
    Transmission.lastSwitched_singleton, unswitched, Option.none_or]
  rcases prepared with ⟨disabled, rfl⟩ | ⟨off, _, rfl, switched⟩
  · exact disabled
  · rw [Transmission.lastSwitched_singleton, switched]
    rfl

/-- What a device is after calls, and what one more call may do. -/
structure FollowsLifecycle
    (device : Device (Logged Stream) Config)
    (history : List (DeviceCall Stream Config))
    (call : DeviceCall Stream Config) :
    Prop where
  /-- The configuration is that of the last acknowledged upload. -/
  config : (device.after history).config = Transmission.lastUploaded (device.sentIn history)
  /-- The device is on if the last acknowledged switch put it on. -/
  enabled : (device.after history).enabled =
    (Transmission.lastSwitched (device.sentIn history)).getD false
  /-- All that was written are the frames of what was sent, and each frame holds its command. -/
  written :
    (device.after history).session.stream.transfers =
        device.session.stream.transfers ++
          (device.sentIn history).flatMap Transmission.transfers ∧
      ∀ transmission ∈ device.sentIn history, transmission.Fits
  /--
  `configure` uploads last, and only when the device is off: if the device was
  on, it has acknowledged before that it was switched off.
  -/
  guarded : ∀ config, call.task = .configure config →
    ∀ upload ∈ (device.after history).sent call, ∀ other, upload.purpose = .upload other →
      ∃ before,
        (device.after history).sent call = before ++ [upload] ∧
          (Transmission.lastSwitched (device.sentIn history ++ before)).getD false = false ∧
          ((device.after history).enabled = true →
            ∃ off, before = [off] ∧ off.purpose = .switch false ∧ off.isAcknowledged = true)
  /-- A configuration that cannot be uploaded causes an error, and nothing else. -/
  unusable : ∀ config reason, call.task.config? = some config →
    uploadCommand config = .error reason →
      (device.after history).sent call = [] ∧
        ∃ error, (device.after history).perform call =
          ⟨.error error, (device.after history).ready call, call.clock⟩
  /--
  A call that fails keeps the configuration, and switches the device only if
  it was to configure it and switching it off was acknowledged.
  -/
  failed : ∀ error, ((device.after history).perform call).result = .error error →
    ((device.after history).perform call).state.config = (device.after history).config ∧
      (((device.after history).perform call).state.enabled ≠ (device.after history).enabled →
        ∃ config off,
          call.task = .configure config ∧ off ∈ (device.after history).sent call ∧
            off.purpose = .switch false ∧ off.isAcknowledged = true)
  /--
  The configuration of a call that can be uploaded is rejected exactly if its
  upload was answered with a positive status, and the error tells the answer.
  -/
  rejected :
    (∀ config, call.task.config? = some config → ∃ command, uploadCommand config = .ok command) →
      ∀ code text,
        ((device.after history).perform call).result =
            .error (.configurationRejected code text) ↔
          ∃ upload ∈ (device.after history).sent call, ∃ config,
            upload.purpose = .upload config ∧ upload.IsRefused code text

/-- A device follows its life cycle, whatever calls it is given and however they end. -/
theorem follows_lifecycle
    (name : String)
    (session : Session (Logged Stream))
    (history : List (DeviceCall Stream Config))
    (call : DeviceCall Stream Config) :
    FollowsLifecycle (Device.new name session) history call := by
  have unconfigured : (Device.new name session : Device (Logged Stream) Config).config = none :=
    rfl
  have off : (Device.new name session : Device (Logged Stream) Config).enabled = false := rfl
  generalize (Device.new name session : Device (Logged Stream) Config) = device
    at unconfigured off
  have follows := device.follows_after history
  have performed := (device.after history).follows_perform call
  have went : Went _ call.task ((device.after history).sent call)
      ((device.after history).perform call).result :=
    ((device.after history).ready call).went_run call.task call.clock
  have enabled : (device.after history).enabled =
      (Transmission.lastSwitched (device.sentIn history)).getD false :=
    follows.enabled.trans (by rw [off])
  constructor
  case config => rw [follows.config, unconfigured, Option.or_none]
  case enabled => exact enabled
  case written => exact ⟨follows.transfers, fun _ => fits_of_mem_sentIn⟩
  case guarded =>
    intro config configures upload member other purpose
    rcases went.exists_before_upload configures member purpose with
        ⟨before, split, isOff, acknowledged⟩
    refine ⟨before, split, ?_, acknowledged⟩
    rw [show ((device.after history).ready call).enabled = (device.after history).enabled from rfl,
      enabled] at isOff
    rw [Transmission.lastSwitched_append]
    cases switched : Transmission.lastSwitched before <;> simpa [switched] using isOff
  case unusable =>
    intro config reason about failed
    exact run_of_unusable about failed call.clock
  case failed =>
    intro error failed
    rw [failed] at went
    rcases went.unchanged with ⟨notUploaded, notSwitched | disabled⟩
    · rw [performed.config, performed.enabled, notUploaded, notSwitched]
      exact ⟨rfl, fun changed => (changed rfl).elim⟩
    · rw [performed.config, notUploaded]
      exact ⟨rfl, fun _ => disabled⟩
  case rejected => exact went.rejected_iff

end Device

end RoverLink
