import RoverLink.Proofs.Motor.Controller
import RoverLink.Proofs.Session.Halting

/-!
# The amplitude of the signals on the wire

Every task of a motor board is a task of its device, or it sends nothing
(`device_run`), so what a board writes is listed as for a device.  A
configuration is only kept after it was checked, hence its amplitude is positive
(`validate_after`).  From this follows that no signal beyond the amplitude is
ever written, and that signals within it are never refused (`keeps_amplitude`).
-/

namespace RoverLink

/-! ### Refused arguments -/

/-- Whether an error refuses the arguments of a call. -/
def Error.isRefusal : Error → Bool
  | .signalOutOfRange _ _ => true
  | .invalidCommand _ => true
  | _ => false

theorem Limits.Excess.isRefusal
    {limits : Limits}
    {started : Nat}
    {clock : Clock}
    {error : Error}
    (excess : limits.Excess started clock error) :
    error.isRefusal = false := by
  cases excess <;> rfl

theorem Error.isRefusal_of_isVerdict
    {error : Error}
    (verdict : error.isVerdict = true) :
    error.isRefusal = false := by
  cases error <;> simp_all [isVerdict, isReception, deviceCode, isRefusal]

/-- A session refuses no command. -/
theorem Session.isRefusal_sendWithin
    {Stream : Type}
    [ByteStream Stream]
    {session : Session Stream}
    {command : Command}
    {limits : Limits}
    {clock : Clock}
    {error : Error}
    (failed : (session.sendWithin command limits clock).result = .error error) :
    error.isRefusal = false := by
  revert failed
  refine sendWithin_cases session command limits clock
    (motive := fun step _ => step.result = .error error → error.isRefusal = false)
    ?refused ?undropped ?dropped
  case refused =>
    intro reason refused same
    cases same
    exact (Limits.exceeded?_eq_some_iff.mp refused).isRefusal
  case undropped =>
    intro reason _ undropped same
    cases same
    exact Error.isRefusal_of_isVerdict
      (Error.isVerdict_of_isReception (isReception_dropStale undropped))
  case dropped =>
    intro _ _ failed
    rcases halted_sendFrame (session.codec.encode command).1 limits clock.now
      session.config.retry 0 (session.numbered command).dropStale.2 clock with
        ⟨last, _, verdicts, halted⟩
    rw [failed] at halted
    cases halted with
    | settled verdict => exact Error.isRefusal_of_isVerdict (verdicts error verdict)
    | exhausted _ _ => rfl
    | limited _ _ excess => exact excess.isRefusal
    | unnamed _ _ _ => rfl

/-! ### Commands of two signals -/

namespace Motor

theorem length_argumentText_le (signal : Int32) :
    (Command.argumentText signal.toInt64).length ≤ 11 := by
  have digits : ∀ magnitude ≤ 2 ^ 31, (Decimal.digits magnitude).length ≤ 10 := by
    intro magnitude small
    exact (Nat.length_toDigits_le_iff (by decide) (by decide)).mpr (by omega)
  have above := signal.le_toInt
  have below := signal.toInt_lt
  rw [Command.argumentText, Int32.toInt_toInt64]
  cases value : signal.toInt with
  | ofNat magnitude =>
    rw [value, Int.ofNat_eq_natCast] at below
    have short := digits magnitude (by omega)
    simp only [Decimal.signed]
    omega
  | negSucc under =>
    rw [value] at above
    have short := digits (under + 1) (by omega)
    simp only [Decimal.signed, List.length_cons]
    omega

/-- Two signals always make a command. -/
theorem exists_make (left right : Int32) :
    ∃ command, Command.make 'V' [left.toInt64, right.toInt64] = .ok command ∧
      command.opcode = 'V' ∧ command.arguments = [left.toInt64, right.toInt64] := by
  have ofLeft := length_argumentText_le left
  have ofRight := length_argumentText_le right
  have body : Command.bodyOf 'V' [left.toInt64, right.toInt64] =
      'V' :: '[' :: (Command.argumentText left.toInt64 ++
        ',' :: Command.argumentText right.toInt64) ++ [']'] := by
    simp [Command.bodyOf, Command.argumentsText, List.intercalate]
  have short : (Command.bodyOf 'V' [left.toInt64, right.toInt64]).length ≤
      Command.maximumLength := by
    simp only [body, List.length_append, List.length_cons, List.length_nil, Command.maximumLength]
    omega
  exact ⟨⟨'V', _, rfl, short⟩, Command.make_eq_ok ⟨'V', _, rfl, short⟩, rfl, rfl⟩

/-- Whether a signal is within the amplitude of a configuration. -/
def Admits (config : MotorConfig) (signal : Int32) : Prop :=
  (signal.toInt.natAbs : Int) ≤ config.maxSignal.toInt

instance (config : MotorConfig) (signal : Int32) : Decidable (Admits config signal) :=
  inferInstanceAs (Decidable (_ ≤ _))

/-- A configuration that passes its check has a positive amplitude. -/
theorem maxSignal_pos_of_validate
    {config : MotorConfig}
    (valid : config.validate = .ok ()) :
    0 < config.maxSignal.toInt := by
  have sound : config.fault? = none := by
    rw [MotorConfig.validate] at valid
    split at valid
    · simp at valid
    next sound => exact sound
  by_contra negative
  have refused : config.maxSignal ≤ 0 := Int32.le_iff_toInt_le.mpr (by simpa using negative)
  simp only [MotorConfig.fault?, refused, if_true] at sound
  split at sound
  · simp at sound
  split at sound
  · simp at sound
  split at sound <;> simp at sound

theorem isWithin_iff
    {config : MotorConfig}
    (valid : config.validate = .ok ())
    (signal : Int32) :
    isWithin config.maxSignal signal = true ↔ Admits config signal := by
  have positive := maxSignal_pos_of_validate valid
  simp only [isWithin, decide_eq_true_eq, Admits]
  omega

/-- No signal is refused exactly if both are within the amplitude. -/
theorem excess?_eq_none_iff
    {config : MotorConfig}
    (valid : config.validate = .ok ())
    (left right : Int32) :
    excess? config.maxSignal left right = none ↔ Admits config left ∧ Admits config right := by
  simp [excess?, ← isWithin_iff valid]

end Motor

/-! ### What a device sends -/

theorem MotorConfig.opcode_of_toCommand
    {config : MotorConfig}
    {command : Command}
    (made : config.toCommand = .ok command) :
    command.opcode = 'C' :=
  (Command.of_mapError_make_eq_ok made).1

section

variable {Stream : Type} [ByteStream Stream]

/-- A command that neither switches nor uploads is the order that the device was given. -/
theorem Device.exists_execute_of_mem_transmissions
    {device : Device (Logged Stream) MotorConfig}
    {task : DeviceTask MotorConfig}
    {clock : Clock}
    {transmission : Transmission MotorConfig}
    (member : transmission ∈ device.transmissions task clock)
    (opcode : transmission.command.opcode = 'V') :
    ∃ command limits, task = .execute command limits ∧ transmission.command = command := by
  rcases fits_of_mem_transmissions member with ⟨⟨_, command⟩, serves⟩
  cases purpose : transmission.purpose with
  | switch on =>
    simp only [purpose] at command
    simp [command, switchCommand, Command.switch] at opcode
  | upload config =>
    simp only [purpose] at command
    rw [MotorConfig.opcode_of_toCommand (of_uploadCommand_eq_ok command).2] at opcode
    simp at opcode
  | order =>
    rw [purpose] at serves
    rcases serves with ⟨command, limits, rfl⟩
    refine ⟨command, limits, rfl, ?_⟩
    simp only [transmissions] at member
    split at member
    · rw [List.mem_singleton.mp member]
      rfl
    · simp at member

/-- A configuration is uploaded only after it was checked. -/
theorem Device.validate_of_lastUploaded
    {device : Device (Logged Stream) MotorConfig}
    {task : DeviceTask MotorConfig}
    {clock : Clock}
    {config : MotorConfig}
    (uploaded : Transmission.lastUploaded (device.transmissions task clock) = some config) :
    config.validate = .ok () := by
  rcases List.mem_filterMap.mp (List.mem_of_getLast? uploaded) with ⟨upload, member, effect⟩
  rcases fits_of_mem_transmissions member with ⟨⟨_, command⟩, _⟩
  rw [Transmission.uploaded?] at effect
  split at effect
  next purpose =>
    split at effect
    · cases effect
      simp only [purpose] at command
      exact (of_uploadCommand_eq_ok command).1
    · simp at effect
  next => simp at effect

end

namespace Motor

variable {Stream : Type} [ByteStream Stream]

/-! ### What a motor board sends -/

/-- The task that a board gives its device for a task; it refuses a task that has none. -/
def deviceTask? (motor : Motor Stream) : MotorTask → Option (DeviceTask MotorConfig)
  | .configure config => some (.configure config)
  | .enable => some .enable
  | .disable => some .disable
  | .moveAt left right =>
    match motor.device.config with
    | none => none
    | some config =>
      match excess? config.maxSignal left right with
      | some _ => none
      | none =>
        (Command.make 'V' [left.toInt64, right.toInt64]).toOption.map (.execute · .none)
  | .stop => some (.execute (.query 'X' (Eq.refl true)) .none)
  | .readEncoders => some (.execute (.query 'e' (Eq.refl true)) .none)
  | .readEncoderValues => some (.execute (.query 'e' (Eq.refl true)) .none)
  | .readStatus => some (.execute (.query 'S' (Eq.refl true)) .none)

/-- The commands that a board sends for a task. -/
def transmissions
    (motor : Motor Stream)
    (task : MotorTask)
    (clock : Clock) :
    List (Transmission MotorConfig) :=
  match motor.deviceTask? task with
  | some task => motor.device.transmissions task clock
  | none => []

/-- A task does to the device what the task of the device does. -/
theorem device_run
    (motor : Motor Stream)
    (task : MotorTask)
    (clock : Clock) :
    (motor.run task clock).state.device =
      match motor.deviceTask? task with
      | some task => (motor.device.run task clock).state
      | none => motor.device := by
  cases task with
  | moveAt left right =>
    simp only [run, moveAt, deviceTask?, Device.requireConfig]
    cases motor.device.config with
    | none => rfl
    | some config =>
      dsimp only
      cases excess? config.maxSignal left right with
      | some signal => rfl
      | none =>
        rcases exists_make left right with ⟨command, made, _⟩
        rw [made]
        rfl
  | _ => rfl

theorem follows_run
    (motor : Motor (Logged Stream))
    (task : MotorTask)
    (clock : Clock) :
    Device.Follows motor.device (motor.transmissions task clock)
      (motor.run task clock).state.device := by
  rw [device_run, transmissions]
  cases motor.deviceTask? task with
  | none => exact .refl _
  | some task => exact motor.device.follows_run task clock

/-- Signals are only sent to move, and only if they are not beyond the amplitude. -/
theorem of_mem_transmissions
    {motor : Motor (Logged Stream)}
    {task : MotorTask}
    {clock : Clock}
    {transmission : Transmission MotorConfig}
    (member : transmission ∈ motor.transmissions task clock)
    (opcode : transmission.command.opcode = 'V') :
    ∃ config left right,
      task = .moveAt left right ∧ motor.device.config = some config ∧
        excess? config.maxSignal left right = none ∧
        transmission.command.arguments = [left.toInt64, right.toInt64] := by
  rw [transmissions] at member
  split at member
  next given assigned =>
    rcases Device.exists_execute_of_mem_transmissions member opcode with
      ⟨command, limits, rfl, same⟩
    rw [same] at opcode ⊢
    cases task with
    | moveAt left right =>
      simp only [deviceTask?] at assigned
      split at assigned
      · simp at assigned
      next config configured =>
        split at assigned
        · simp at assigned
        next admitted =>
          rcases exists_make left right with ⟨made, makes, _, arguments⟩
          rw [makes] at assigned
          cases assigned
          exact ⟨config, left, right, rfl, configured, admitted, arguments⟩
    | _ => cases assigned <;> simp [Command.query] at opcode
  next => simp at member

/-! ### One task -/

/-- Whether a board keeps only configurations that pass their check. -/
def IsChecked (motor : Motor Stream) : Prop :=
  ∀ config, motor.device.config = some config → config.validate = .ok ()

theorem IsChecked.run
    {motor : Motor (Logged Stream)}
    (checked : motor.IsChecked)
    (task : MotorTask)
    (clock : Clock) :
    (motor.run task clock).state.IsChecked := by
  intro config kept
  rw [(motor.follows_run task clock).config, transmissions] at kept
  split at kept
  · cases uploaded : Transmission.lastUploaded _ with
    | none =>
      rw [uploaded] at kept
      exact checked config kept
    | some other =>
      rw [uploaded] at kept
      cases kept
      exact Device.validate_of_lastUploaded uploaded
  · exact checked config kept

/-- Only a configuration that the device accepts replaces another one. -/
theorem config_run_or
    (motor : Motor Stream)
    (task : MotorTask)
    (clock : Clock) :
    (motor.run task clock).state.device.config = motor.device.config ∨
      ∃ config, task = .configure config ∧ (motor.run task clock).result = .ok () ∧
        (motor.run task clock).state.device.config = some config := by
  cases task with
  | configure config =>
    have kept := motor.device.config_configure config clock
    by_cases accepted : (motor.device.configure config clock).result = .ok ()
    · rw [if_pos accepted] at kept
      exact .inr ⟨config, rfl, accepted, kept⟩
    · rw [if_neg accepted] at kept
      exact .inl kept
  | enable => exact .inl (motor.device.config_setEnabled true clock)
  | disable => exact .inl (motor.device.config_setEnabled false clock)
  | _ => exact .inl (motor.config_run rfl clock)

/-- Signals within the amplitude are given to the session, which refuses no command. -/
theorem moveAt_of_admits
    {motor : Motor Stream}
    (checked : motor.IsChecked)
    {config : MotorConfig}
    (configured : motor.device.config = some config)
    {left right : Int32}
    (ofLeft : Admits config left)
    (ofRight : Admits config right)
    (clock : Clock) :
    ∃ command, command.opcode = 'V' ∧ command.arguments = [left.toInt64, right.toInt64] ∧
      motor.transmissions (.moveAt left right) clock =
        [motor.device.transmission .order command .none clock] ∧
      (motor.moveAt left right clock).result =
        (motor.device.session.send command clock).result.map (fun _ => ()) ∧
      (motor.moveAt left right clock).state.device.session =
        (motor.device.session.send command clock).state ∧
      ∀ error, (motor.moveAt left right clock).result = .error error →
        error.isRefusal = false := by
  have admitted : excess? config.maxSignal left right = none :=
    (excess?_eq_none_iff (checked config configured) left right).mpr ⟨ofLeft, ofRight⟩
  have isConfigured : motor.device.isConfigured = true := by
    simp [Device.isConfigured, configured]
  rcases exists_make left right with ⟨command, made, opcode, arguments⟩
  have orders : motor.moveAt left right clock =
      ((motor.device.transmit command .none clock).within Motor.mk).map fun _ => () := by
    simp [moveAt, Device.requireConfig, configured, admitted, made, execute, Device.execute,
      Device.executeWithin, isConfigured]
  refine ⟨command, opcode, arguments, ?_, ?_, ?_, ?_⟩
  · simp [transmissions, deviceTask?, configured, admitted, made, Except.toOption,
      Device.transmissions, isConfigured]
  · rw [orders]
    rfl
  · rw [orders]
    rfl
  · intro error failed
    rw [orders, Step.result_map_eq_error_iff] at failed
    exact Session.isRefusal_sendWithin failed

/-- A signal beyond the amplitude is refused, and nothing happens. -/
theorem moveAt_of_not_admits
    {motor : Motor Stream}
    (checked : motor.IsChecked)
    {config : MotorConfig}
    (configured : motor.device.config = some config)
    {left right : Int32}
    (beyond : ¬ (Admits config left ∧ Admits config right))
    (clock : Clock) :
    ∃ signal ∈ [left, right],
      ¬ Admits config signal ∧
      motor.transmissions (.moveAt left right) clock = [] ∧
      motor.moveAt left right clock =
        .refuse (.signalOutOfRange signal config.maxSignal) motor clock := by
  have valid := checked config configured
  cases excess : excess? config.maxSignal left right with
  | none => exact (beyond ((excess?_eq_none_iff valid _ _).mp excess)).elim
  | some signal =>
    have outside : isWithin config.maxSignal signal = false := by
      simpa using List.find?_some excess
    refine ⟨signal, List.mem_of_find?_eq_some excess, ?_, ?_, ?_⟩
    · rw [← isWithin_iff valid, outside]
      simp
    · simp [transmissions, deviceTask?, configured, excess]
    · simp [moveAt, Device.requireConfig, configured, excess]

/-! ### A history -/

/-- The board when a call begins. -/
def ready (motor : Motor (Logged Stream)) (call : BoardCall Stream MotorTask) :
    Motor (Logged Stream) :=
  (controller Stream).ready motor call

/-- The step of a call. -/
def perform
    (motor : Motor (Logged Stream))
    (call : BoardCall Stream MotorTask) :
    Step (Motor (Logged Stream)) Unit :=
  (controller Stream).perform motor call

/-- The board after calls. -/
def after
    (motor : Motor (Logged Stream))
    (calls : List (BoardCall Stream MotorTask)) :
    Motor (Logged Stream) :=
  (controller Stream).after motor calls

/-- The commands that a board sends in a call. -/
def sent
    (motor : Motor (Logged Stream))
    (call : BoardCall Stream MotorTask) :
    List (Transmission MotorConfig) :=
  (motor.ready call).transmissions call.task call.clock

/-- All commands that a board sends in calls. -/
def sentIn (motor : Motor (Logged Stream)) :
    List (BoardCall Stream MotorTask) → List (Transmission MotorConfig)
  | [] => []
  | call :: calls => motor.sent call ++ sentIn (motor.perform call).state calls

/-- The frame of a command that is sent holds the command. -/
theorem read_frame_of_mem_sent
    {motor : Motor (Logged Stream)}
    {call : BoardCall Stream MotorTask}
    {transmission : Transmission MotorConfig}
    (member : transmission ∈ motor.sent call) :
    Request.read transmission.frame = .ok transmission.command := by
  rw [sent, transmissions] at member
  split at member
  · exact (Device.fits_of_mem_transmissions member).1.1
  · simp at member

theorem follows_perform
    (motor : Motor (Logged Stream))
    (call : BoardCall Stream MotorTask) :
    Device.Follows motor.device (motor.sent call) (motor.perform call).state.device := by
  have run := (motor.ready call).follows_run call.task call.clock
  exact ⟨run.config, run.enabled, run.transfers⟩

theorem follows_after
    (motor : Motor (Logged Stream))
    (calls : List (BoardCall Stream MotorTask)) :
    Device.Follows motor.device (motor.sentIn calls) (motor.after calls).device := by
  induction calls generalizing motor with
  | nil => exact .refl _
  | cons call calls induction =>
    exact (motor.follows_perform call).trans (induction (motor.perform call).state)

theorem IsChecked.after
    {motor : Motor (Logged Stream)}
    (checked : motor.IsChecked)
    (calls : List (BoardCall Stream MotorTask)) :
    (motor.after calls).IsChecked := by
  induction calls generalizing motor with
  | nil => exact checked
  | cons call calls induction =>
    have ready : (motor.ready call).IsChecked := checked
    exact induction (ready.run call.task call.clock)

/-- Whether a command holds two signals that the configuration of a board admits. -/
def AdmitsSignals (motor : Motor Stream) (command : Command) : Prop :=
  ∃ config left right,
    motor.device.config = some config ∧ command.arguments = [left.toInt64, right.toInt64] ∧
      Admits config left ∧ Admits config right

/-- Signals are only sent in a call that starts and ends with a configuration that admits them. -/
theorem admitsSignals_of_mem_sent
    {motor : Motor (Logged Stream)}
    (checked : motor.IsChecked)
    {call : BoardCall Stream MotorTask}
    {transmission : Transmission MotorConfig}
    (member : transmission ∈ motor.sent call)
    (opcode : transmission.command.opcode = 'V') :
    motor.AdmitsSignals transmission.command ∧
      (motor.perform call).state.device.config = motor.device.config := by
  rcases of_mem_transmissions member opcode with
    ⟨config, left, right, task, configured, admitted, arguments⟩
  have within' := (excess?_eq_none_iff (checked config configured) left right).mp admitted
  have other : call.task.preparation? = none := by
    rw [task]
    rfl
  exact ⟨⟨config, left, right, configured, arguments, within'⟩,
    (motor.ready call).config_run other call.clock⟩

/-- Every command that was sent was sent in one of the calls. -/
theorem exists_of_mem_sentIn
    {motor : Motor (Logged Stream)}
    {calls : List (BoardCall Stream MotorTask)}
    {transmission : Transmission MotorConfig}
    (member : transmission ∈ motor.sentIn calls) :
    ∃ before call behind, calls = before ++ call :: behind ∧
      transmission ∈ (motor.after before).sent call := by
  induction calls generalizing motor with
  | nil => simp [sentIn] at member
  | cons call calls induction =>
    rcases List.mem_append.mp member with now | later
    · exact ⟨[], call, calls, rfl, now⟩
    · rcases induction later with ⟨before, other, behind, rfl, found⟩
      exact ⟨call :: before, other, behind, rfl, found⟩

/-- The signals that a board writes in a history, and what it does to those of a further call. -/
structure KeepsAmplitude
    (motor : Motor (Logged Stream))
    (history : List (BoardCall Stream MotorTask))
    (call : BoardCall Stream MotorTask) :
    Prop where
  /-- All that was written are the frames of what was sent, and each frame holds its command. -/
  written :
    (motor.after history).device.session.stream.transfers =
        motor.device.session.stream.transfers ++
          (motor.sentIn history).flatMap Transmission.transfers ∧
      ∀ transmission ∈ motor.sentIn history,
        Request.read transmission.frame = .ok transmission.command
  /-- All signals were sent in calls that start and end with a configuration that admits them. -/
  bounded : ∀ transmission ∈ motor.sentIn history, transmission.command.opcode = 'V' →
    ∃ before other behind, history = before ++ other :: behind ∧
      transmission ∈ (motor.after before).sent other ∧
      (motor.after before).AdmitsSignals transmission.command ∧
      ((motor.after before).perform other).state.device.config =
        (motor.after before).device.config
  /-- The configuration only changes when another one is accepted. -/
  limit :
    ((motor.after history).perform call).state.device.config =
        (motor.after history).device.config ∨
      ∃ config, call.task = .configure config ∧
        ((motor.after history).perform call).result = .ok () ∧
        ((motor.after history).perform call).state.device.config = some config
  /-- Signals that the configuration admits are given to the session, and never refused. -/
  admitted : ∀ config left right, (motor.after history).device.config = some config →
    call.task = .moveAt left right → Admits config left → Admits config right →
      ∃ command, command.opcode = 'V' ∧ command.arguments = [left.toInt64, right.toInt64] ∧
        (motor.after history).sent call =
          [((motor.after history).ready call).device.transmission .order command .none
            call.clock] ∧
        ((motor.after history).perform call).result =
          (((motor.after history).ready call).device.session.send command call.clock).result.map
            (fun _ => ()) ∧
        ((motor.after history).perform call).state.device.session =
          (((motor.after history).ready call).device.session.send command call.clock).state ∧
        ∀ error, ((motor.after history).perform call).result = .error error →
          error.isRefusal = false
  /-- If the configuration does not admit both signals, nothing is sent and nothing changes. -/
  beyond : ∀ config left right, (motor.after history).device.config = some config →
    call.task = .moveAt left right → ¬ (Admits config left ∧ Admits config right) →
      ∃ signal ∈ [left, right],
        ¬ Admits config signal ∧ (motor.after history).sent call = [] ∧
          (motor.after history).perform call =
            .refuse (.signalOutOfRange signal config.maxSignal)
              ((motor.after history).ready call) call.clock

/-- A motor board never writes signals beyond its amplitude, and refuses none within it. -/
theorem keeps_amplitude
    (session : Session (Logged Stream))
    (history : List (BoardCall Stream MotorTask))
    (call : BoardCall Stream MotorTask) :
    KeepsAmplitude (Motor.new session) history call := by
  have checked : (Motor.new session).IsChecked := by
    intro config kept
    cases kept
  generalize Motor.new session = motor at checked
  have ready : ((motor.after history).ready call).IsChecked := checked.after history
  obtain ⟨meanwhile, task, clock⟩ := call
  constructor
  case written =>
    refine ⟨(motor.follows_after history).transfers, ?_⟩
    intro transmission member
    rcases exists_of_mem_sentIn member with ⟨before, call, behind, _, sent⟩
    exact read_frame_of_mem_sent sent
  case bounded =>
    intro transmission member opcode
    rcases exists_of_mem_sentIn member with ⟨before, other, behind, split, sent⟩
    rcases admitsSignals_of_mem_sent (checked.after before) sent opcode with ⟨admits, same⟩
    exact ⟨before, other, behind, split, sent, admits, same⟩
  case limit => exact config_run_or _ task clock
  case admitted =>
    rintro config left right configured ⟨⟩ ofLeft ofRight
    exact moveAt_of_admits ready configured ofLeft ofRight clock
  case beyond =>
    rintro config left right configured ⟨⟩ beyond
    exact moveAt_of_not_admits ready configured beyond clock

end Motor

end RoverLink
