import RoverLink.Motor.Config
import RoverLink.Proofs.Device.Lifecycle
import RoverLink.Stream.Scripted

/-!
# The outputs of a device after its configuration

A frame that was written may have been carried out even if its reply was lost.
After a configuration the last switch command that may have been carried out
need not have switched the outputs off: a device that did not acknowledge that
it was switched on counts as off, and is not switched off before the upload
(`exists_outputs_on`).  Any other switch command is followed by the one that
switches the outputs off (`outputs_after_configure`).  What was written is in the
log of the stream, which takes no part in this (`after_forget`).
-/

namespace RoverLink

/-- Whether the command of an attempt may have been carried out: it was written and not refused. -/
def Ending.mayAct : Ending → Bool
  | .unsent _ => false
  | .awaited (.reply reply) => reply.status ≤ 0
  | .awaited _ => true

namespace Transmission

variable {Config : Type}

/-- The switch commands among the frames of a transmission that may have been carried out. -/
def effects (transmission : Transmission Config) : List Command :=
  if transmission.command.opcode = 'E' then
    (transmission.attempts.filter Ending.mayAct).map fun _ => transmission.command
  else
    []

/-- The last switch command that may have been carried out. -/
def lastEffect (transmissions : List (Transmission Config)) : Option Command :=
  (transmissions.flatMap effects).getLast?

@[simp]
theorem lastEffect_append (earlier later : List (Transmission Config)) :
    lastEffect (earlier ++ later) = (lastEffect later).or (lastEffect earlier) := by
  simp [lastEffect, List.getLast?_append]

theorem lastEffect_singleton (transmission : Transmission Config) :
    lastEffect [transmission] = transmission.effects.getLast? := by
  rw [lastEffect, List.flatMap_singleton]

theorem effects_of_opcode_ne
    {transmission : Transmission Config}
    (other : transmission.command.opcode ≠ 'E') :
    transmission.effects = [] :=
  if_neg other

theorem eq_of_mem_effects
    {transmission : Transmission Config}
    {command : Command}
    (member : command ∈ transmission.effects) :
    command = transmission.command := by
  rw [effects] at member
  split at member
  · rcases List.mem_map.mp member with ⟨_, _, same⟩
    exact same.symm
  · simp at member

/-- The last effect is that of a transmission behind which no other one has an effect. -/
theorem exists_of_lastEffect_eq_some
    {transmissions : List (Transmission Config)}
    {command : Command}
    (last : lastEffect transmissions = some command) :
    ∃ before transmission behind,
      transmissions = before ++ transmission :: behind ∧
        command ∈ transmission.effects ∧ ∀ other ∈ behind, other.effects = [] := by
  induction transmissions with
  | nil => simp [lastEffect] at last
  | cons first rest induction =>
    rw [← List.singleton_append, lastEffect_append] at last
    cases later : lastEffect rest with
    | some other =>
      rw [later] at last
      rcases induction (later.trans last) with ⟨before, transmission, behind, split, found⟩
      exact ⟨first :: before, transmission, behind, by rw [split]; rfl, found⟩
    | none =>
      rw [later, Option.none_or, lastEffect_singleton] at last
      refine ⟨[], first, rest, rfl, List.mem_of_getLast? last, ?_⟩
      exact List.flatMap_eq_nil_iff.mp (List.getLast?_eq_none_iff.mp later)

/-! ### Acknowledged switches -/

variable [DeviceConfiguration Config]

/-- An acknowledged switch has an effect, and it is the last one of its frames. -/
theorem getLast?_effects_of_switched
    {transmission : Transmission Config}
    (fits : transmission.Fits)
    {on : Bool}
    (switched : transmission.switched? = some on) :
    transmission.effects.getLast? = some (Device.switchCommand on) := by
  rcases of_switched?_eq_some switched with ⟨purpose, acknowledged⟩
  rcases isAcknowledged_eq_true_iff.mp acknowledged with ⟨reply, last, success⟩
  rcases List.getLast?_eq_some_iff.mp last with ⟨others, split⟩
  have command : transmission.command = Device.switchCommand on := by
    simpa [Fits, purpose] using fits.2
  have acts : (Ending.awaited (.reply reply)).mayAct = true := by
    simp [Ending.mayAct, success]
  rw [effects, command, if_pos (show (Device.switchCommand on).opcode = 'E' from rfl), split,
    List.filter_append, List.filter_cons_of_pos acts]
  simp

/-- If the last effect is that of an acknowledged switch, this is the last acknowledged one. -/
theorem lastSwitched_of_last_effect
    {before behind : List (Transmission Config)}
    {transmission : Transmission Config}
    (fits : ∀ other ∈ behind, other.Fits)
    (idle : ∀ other ∈ behind, other.effects = [])
    {on : Bool}
    (switched : transmission.switched? = some on) :
    lastSwitched (before ++ transmission :: behind) = some on := by
  have nothing : lastSwitched behind = none := by
    rw [lastSwitched, List.getLast?_eq_none_iff, List.filterMap_eq_nil_iff]
    intro other member
    cases effect : other.switched? with
    | none => rfl
    | some value =>
      have last := getLast?_effects_of_switched (fits other member) effect
      simp [idle other member] at last
  rw [← List.singleton_append, lastSwitched_append, lastSwitched_append, nothing,
    lastSwitched_singleton, switched]
  rfl

end Transmission

namespace Device

variable {Stream Config : Type} [ByteStream Stream] [DeviceConfiguration Config]

/-- Whether a command was to switch the outputs on and was not acknowledged, or was no switch. -/
def IsUncertain (transmission : Transmission Config) : Prop :=
  (transmission.purpose = .switch true ∧ transmission.isAcknowledged = false) ∨
    ∀ on, transmission.purpose ≠ .switch on

/-- What is known of the outputs of a device after it was configured successfully. -/
structure OutputsAfterConfigure
    (device : Device (Logged Stream) Config)
    (history : List (DeviceCall Stream Config))
    (call : DeviceCall Stream Config)
    (config : Config) :
    Prop where
  /-- Nothing else was written than the frames of what was sent, and each holds its command. -/
  written :
    (device.after (history ++ [call])).session.stream.transfers =
        device.session.stream.transfers ++
          (device.sentIn (history ++ [call])).flatMap Transmission.transfers ∧
      ∀ transmission ∈ device.sentIn (history ++ [call]), transmission.Fits
  /-- A device that counted as on was switched off. -/
  switchedOff : (device.after history).enabled = true →
    (∀ command, uploadCommand config = .ok command → command.opcode ≠ 'E') →
      Transmission.lastEffect (device.sentIn (history ++ [call])) = some (switchCommand false)
  /-- A device that counted as off was not switched. -/
  kept : (device.after history).enabled = false →
    (∀ command, uploadCommand config = .ok command → command.opcode ≠ 'E') →
      Transmission.lastEffect (device.sentIn (history ++ [call])) =
        Transmission.lastEffect (device.sentIn history)
  /--
  Unless the last effect is that of switching the outputs off, it is that of
  switching them on without an acknowledgement, or that of a command which is
  no switch to the device.
  -/
  uncertain : ∀ command,
    Transmission.lastEffect (device.sentIn (history ++ [call])) = some command →
      command = switchCommand false ∨
        ∃ before transmission behind,
          device.sentIn (history ++ [call]) = before ++ transmission :: behind ∧
            command ∈ transmission.effects ∧ (∀ other ∈ behind, other.effects = []) ∧
            IsUncertain transmission

/-- A switch that was not acknowledged, or no switch at all. -/
theorem isUncertain_or_eq_switchCommand
    {transmission : Transmission Config}
    (fits : transmission.Fits)
    (unswitched : transmission.switched? = none) :
    transmission.command = switchCommand false ∨ IsUncertain transmission := by
  cases purpose : transmission.purpose with
  | switch on =>
    have command : transmission.command = switchCommand on := by
      simpa [Transmission.Fits, purpose] using fits.2
    cases on with
    | false => exact .inl command
    | true =>
      refine .inr (.inl ⟨purpose, ?_⟩)
      simpa [Transmission.switched?, purpose] using unswitched
  | upload config => exact .inr (.inr (by simp [purpose]))
  | order => exact .inr (.inr (by simp [purpose]))

/-- The switch commands after a successful configuration. -/
theorem outputs_after_configure
    {device : Device (Logged Stream) Config}
    {history : List (DeviceCall Stream Config)}
    {call : DeviceCall Stream Config}
    {config : Config}
    (configures : call.task = .configure config)
    (succeeded : ((device.after history).perform call).result = .ok ()) :
    OutputsAfterConfigure device history call config := by
  have went : Went ((device.after history).ready call) call.task
      ((device.after history).sent call) ((device.after history).perform call).result :=
    ((device.after history).ready call).went_run call.task call.clock
  rw [configures, succeeded] at went
  rcases went.of_configured with ⟨before, upload, sent, purpose, prepared⟩
  have all : device.sentIn (history ++ [call]) = device.sentIn history ++ (before ++ [upload]) := by
    rw [sentIn_append, ← sent]
    simp [sentIn]
  have follows := device.follows_after (history ++ [call])
  have fits : ∀ transmission ∈ device.sentIn (history ++ [call]), transmission.Fits :=
    fun _ => fits_of_mem_sentIn
  have idle : (∀ command, uploadCommand config = .ok command → command.opcode ≠ 'E') →
      upload.effects = [] := by
    intro other
    have own : upload.Fits := fits upload (by simp [all])
    refine Transmission.effects_of_opcode_ne (other _ ?_)
    simpa [Transmission.Fits, purpose] using own.2
  constructor
  case written => exact ⟨follows.transfers, fits⟩
  case switchedOff =>
    intro enabled other
    rcases prepared with ⟨disabled, _⟩ | ⟨off, _, rfl, switched⟩
    · exact absurd (enabled.symm.trans disabled) (by simp)
    · have last := Transmission.getLast?_effects_of_switched (fits off (by simp [all])) switched
      rw [all, Transmission.lastEffect_append, Transmission.lastEffect_append,
        Transmission.lastEffect_singleton, Transmission.lastEffect_singleton, idle other, last]
      rfl
  case kept =>
    intro disabled other
    rcases prepared with ⟨_, rfl⟩ | ⟨_, enabled, _⟩
    · rw [all, Transmission.lastEffect_append, List.nil_append,
        Transmission.lastEffect_singleton, idle other]
      rfl
    · exact absurd (enabled.symm.trans disabled) (by simp)
  case uncertain =>
    intro command last
    rcases Transmission.exists_of_lastEffect_eq_some last with
        ⟨earlier, transmission, behind, split, member, quiet⟩
    rw [Transmission.eq_of_mem_effects member]
    have own : transmission.Fits := fits transmission (by simp [split])
    cases switched : transmission.switched? with
    | none =>
      rcases isUncertain_or_eq_switchCommand own switched with off | uncertain
      · exact .inl off
      · refine .inr ⟨earlier, transmission, behind, split, ?_, quiet, uncertain⟩
        exact Transmission.eq_of_mem_effects member ▸ member
    | some on =>
      -- The switch of the device is the one that it acknowledged last, and it is off.
      have isOff : on = false := by
        have enabled := follows.enabled
        rw [after_append, split, Transmission.lastSwitched_of_last_effect
          (fun other behind => fits other (by simp [split, behind])) quiet switched] at enabled
        exact enabled.symm.trans (enabled_of_configured configures succeeded)
      refine .inl ?_
      simpa [Transmission.Fits, (Transmission.of_switched?_eq_some switched).1, isOff] using own.2

/-- A motor board that answers every request but the second. -/
def forgetful : Device (Logged Scripted) MotorConfig :=
  .new "motors"
    (.new
      (Logged.start (((Scripted.empty.reply [.line ['#', '[', '0', ']']]).reply []).reply
        [.line ['#', '[', '0', ']']]))
      ⟨.withoutBackoff 1, .ofMilliseconds 1000, .placeholder⟩)

/--
This board is configured, switched on without an acknowledgement, and
configured again.  It counts as disabled, and yet the last switch command has
put its outputs on.
-/
theorem exists_outputs_on :
    ∃ (history : List (DeviceCall Scripted MotorConfig)) (call : DeviceCall Scripted MotorConfig),
      call.task = .configure .standard ∧
        ((forgetful.after history).perform call).result = .ok () ∧
        (forgetful.after (history ++ [call])).state = .disabled ∧
        Transmission.lastEffect (forgetful.sentIn (history ++ [call])) =
          some (switchCommand true) ∧
        ∃ before transmission behind,
          forgetful.sentIn (history ++ [call]) = before ++ transmission :: behind ∧
            switchCommand true ∈ transmission.effects ∧
            (∀ other ∈ behind, other.effects = []) ∧
            IsUncertain transmission := by
  let call : DeviceCall Scripted MotorConfig := .prompt (.configure .standard) .start
  let history : List (DeviceCall Scripted MotorConfig) := [call, .prompt .enable .start]
  have isOk : ((forgetful.after history).perform call).result.isOk = true := by decide +kernel
  have succeeded : ((forgetful.after history).perform call).result = .ok () := by
    cases outcome : ((forgetful.after history).perform call).result with
    | ok => rfl
    | error error => simp [outcome, Except.isOk, Except.toBool] at isOk
  have last : Transmission.lastEffect (forgetful.sentIn (history ++ [call])) =
      some (switchCommand true) := by
    decide +kernel
  have outputs : OutputsAfterConfigure forgetful history call .standard :=
    outputs_after_configure rfl succeeded
  refine ⟨history, call, rfl, succeeded, by decide +kernel, last, ?_⟩
  rcases outputs.uncertain (switchCommand true) last with off | uncertain
  · exact absurd off (by decide)
  · exact uncertain

end Device

end RoverLink
