import RoverLink.Proofs.Device.Lifecycle

/-!
# Boards without a configuration

A board is a device with tasks of its own.  A `Controller` is a kind of board: it
says which tasks configure the device or switch it, and that the device refuses
all others until it is configured.  From this follows what calls can do before
the first configuration is accepted (`gated`), whatever the kind of board.
-/

namespace RoverLink

/-- What a device accepts before it has a configuration. -/
inductive Preparation (Config : Type) where
  | configure (config : Config)
  | enable
  | disable

/-- The task with which a device is prepared. -/
def Preparation.task {Config : Type} : Preparation Config → DeviceTask Config
  | .configure config => .configure config
  | .enable => .enable
  | .disable => .disable

theorem Preparation.eq_configure
    {Config : Type}
    {config : Config}
    (preparation : Preparation Config)
    (about : preparation.task.config? = some config) :
    preparation = .configure config := by
  cases preparation with
  | configure other =>
    cases about
    rfl
  | enable => simp [task, DeviceTask.config?] at about
  | disable => simp [task, DeviceTask.config?] at about

/-! ### One preparation of a device -/

namespace Device

variable {Stream Config : Type}

/-- The device after something happened to its stream that nobody asked for. -/
def meanwhile
    (change : Stream → Stream)
    (device : Device (Logged Stream) Config) :
    Device (Logged Stream) Config :=
  { device with
    session := { device.session with stream := device.session.stream.meanwhile change } }

variable [ByteStream Stream]

theorem config_setEnabled
    (device : Device Stream Config)
    (on : Bool)
    (clock : Clock) :
    (device.setEnabled on clock).state.config = device.config := by
  rw [setEnabled_eq]
  rfl

theorem config_ensureDisabled
    (device : Device Stream Config)
    (clock : Clock) :
    (device.ensureDisabled clock).state.config = device.config := by
  rw [ensureDisabled]
  split
  · exact device.config_setEnabled false clock
  · rfl

/-- An upload that succeeds leaves its configuration, and any other one leaves what there was. -/
theorem config_upload
    (device : Device Stream Config)
    (config : Config)
    (command : Command)
    (clock : Clock) :
    (device.upload config command clock).state.config =
      if (device.upload config command clock).result = .ok () then some config
      else device.config := by
  cases outcome : (device.transmit command .none clock).result with
  | ok reply => simp [upload, outcome]
  | error error =>
    simp only [upload, outcome, reduceCtorEq, if_false]
    rfl

theorem config_executeWithin
    (device : Device Stream Config)
    (command : Command)
    (limits : Limits)
    (clock : Clock) :
    (device.executeWithin command limits clock).state.config = device.config := by
  rw [executeWithin]
  split <;> rfl

variable [DeviceConfiguration Config]

theorem config_configure
    (device : Device Stream Config)
    (config : Config)
    (clock : Clock) :
    (device.configure config clock).state.config =
      if (device.configure config clock).result = .ok () then some config
      else device.config := by
  cases usable : uploadCommand config with
  | error error => simp [configure, usable, Step.refuse]
  | ok command =>
    cases outcome : (device.ensureDisabled clock).result with
    | error error => simp [configure, usable, outcome, config_ensureDisabled]
    | ok => simp only [configure, usable, outcome, config_upload, config_ensureDisabled]

omit [ByteStream Stream] in
theorem of_uploadCommand_eq_ok
    {config : Config}
    {command : Command}
    (usable : uploadCommand config = .ok command) :
    DeviceConfiguration.validate config = .ok () ∧
      DeviceConfiguration.toCommand config = .ok command := by
  rw [uploadCommand] at usable
  split at usable
  next valid => exact ⟨valid, usable⟩
  next => simp at usable

theorem updateConfig_of_unconfigured
    {device : Device Stream Config}
    (unconfigured : device.isConfigured = false)
    (config : Config)
    (clock : Clock) :
    device.updateConfig config clock = .refuse .notConfigured device clock := by
  have none : device.config = none := by simpa [isConfigured] using unconfigured
  simp [updateConfig, requireConfig, none]

theorem isConfigured_updateConfig
    {device : Device Stream Config}
    (configured : device.isConfigured = true)
    (config : Config)
    (clock : Clock) :
    (device.updateConfig config clock).state.isConfigured = true := by
  simp only [updateConfig]
  cases device.requireConfig with
  | error error => exact configured
  | ok _ =>
    cases uploadCommand config with
    | error error => exact configured
    | ok command =>
      simp only [isConfigured, config_upload]
      split
      · rfl
      · exact configured

/-- A preparation leaves a device configured exactly if it was, or if it is configured by it. -/
theorem isConfigured_preparation
    (device : Device Stream Config)
    (preparation : Preparation Config)
    (clock : Clock) :
    (device.run preparation.task clock).state.isConfigured = true ↔
      device.isConfigured = true ∨
        ∃ config, preparation = .configure config ∧
          (device.run preparation.task clock).result = .ok () := by
  cases preparation with
  | configure config =>
    simp only [Preparation.task, run, isConfigured, config_configure]
    by_cases succeeds : (device.configure config clock).result = .ok () <;> simp [succeeds]
  | enable => simp [Preparation.task, run, isConfigured, enable, config_setEnabled]
  | disable => simp [Preparation.task, run, isConfigured, disable, config_setEnabled]

end Device

/-! ### Kinds of boards -/

/-- A kind of board that has a device. -/
structure Controller (Stream Config : Type) [ByteStream Stream] [DeviceConfiguration Config] where
  Board : Type
  Task : Type
  device : Board → Device (Logged Stream) Config
  withDevice : Board → Device (Logged Stream) Config → Board
  run : Board → Task → Clock → Step Board Unit
  /-- How a task prepares the device, if it configures or switches it. -/
  preparation? : Task → Option (Preparation Config)
  /-- Whether the instants that the options of a task tell are within the range of instants. -/
  IsNamed : Task → Clock → Prop
  device_withDevice : ∀ board other, device (withDevice board other) = other
  run_of_preparation : ∀ {task preparation},
    preparation? task = some preparation → ∀ board clock,
      run board task clock = ((device board).run preparation.task clock).within (withDevice board)
  /-- Without a configuration, all other tasks are refused. -/
  refuses : ∀ {task}, preparation? task = none → ∀ board clock,
    (device board).isConfigured = false →
      ∃ error, run board task clock = .refuse error board clock ∧
        (IsNamed task clock → error ≠ .clockOverflow)
  /-- No other task takes the configuration away. -/
  stays : ∀ {task}, preparation? task = none → ∀ board clock,
    (device board).isConfigured = true → (device (run board task clock).state).isConfigured = true

/-- A task that a board is given, and what its stream does on its own before. -/
structure BoardCall (Stream Task : Type) where
  meanwhile : Stream → Stream
  task : Task
  clock : Clock

namespace Controller

variable {Stream Config : Type} [ByteStream Stream] [DeviceConfiguration Config]
variable (controller : Controller Stream Config)

/-- The board when a call begins. -/
def ready (board : controller.Board) (call : BoardCall Stream controller.Task) :
    controller.Board :=
  controller.withDevice board ((controller.device board).meanwhile call.meanwhile)

/-- The step of a call. -/
def perform (board : controller.Board) (call : BoardCall Stream controller.Task) :
    Step controller.Board Unit :=
  controller.run (controller.ready board call) call.task call.clock

/-- The board after calls. -/
def after (board : controller.Board) (calls : List (BoardCall Stream controller.Task)) :
    controller.Board :=
  calls.foldl (fun board call => (controller.perform board call).state) board

/-- Whether a call gives the board a configuration that its device accepts. -/
def Configures (board : controller.Board) (call : BoardCall Stream controller.Task) : Prop :=
  ∃ config, controller.preparation? call.task = some (.configure config) ∧
    (controller.perform board call).result = .ok ()

/-- The commands that a board without a configuration sends in a call. -/
def sent (board : controller.Board) (call : BoardCall Stream controller.Task) :
    List (Transmission Config) :=
  match controller.preparation? call.task with
  | some preparation =>
    (controller.device board).sent ⟨call.meanwhile, preparation.task, call.clock⟩
  | none => []

/-- All commands that a board without a configuration sends in calls. -/
def sentIn (board : controller.Board) :
    List (BoardCall Stream controller.Task) → List (Transmission Config)
  | [] => []
  | call :: calls =>
    controller.sent board call ++ sentIn (controller.perform board call).state calls

variable {controller}
variable {board : controller.Board} {call : BoardCall Stream controller.Task}

/-! ### One call -/

theorem device_ready :
    controller.device (controller.ready board call) =
      (controller.device board).meanwhile call.meanwhile :=
  controller.device_withDevice _ _

/-- A call that prepares the device does to it what the preparation does. -/
theorem perform_of_preparation
    (board : controller.Board)
    {preparation : Preparation Config}
    (prepares : controller.preparation? call.task = some preparation) :
    (controller.perform board call).result =
        ((controller.device board).perform
          ⟨call.meanwhile, preparation.task, call.clock⟩).result ∧
      controller.device (controller.perform board call).state =
        ((controller.device board).perform
          ⟨call.meanwhile, preparation.task, call.clock⟩).state := by
  rw [perform, controller.run_of_preparation prepares, device_ready, Step.state_within,
    controller.device_withDevice]
  exact ⟨rfl, rfl⟩

/-- Any other call on a board without a configuration is refused. -/
theorem perform_of_unconfigured
    (other : controller.preparation? call.task = none)
    (unconfigured : (controller.device board).isConfigured = false) :
    ∃ error,
      controller.perform board call = .refuse error (controller.ready board call) call.clock ∧
        (controller.IsNamed call.task call.clock → error ≠ .clockOverflow) := by
  refine controller.refuses other (controller.ready board call) call.clock ?_
  rw [device_ready]
  exact unconfigured

/-- A board is configured after a call exactly if it was, or if the call configures it. -/
theorem isConfigured_perform :
    (controller.device (controller.perform board call).state).isConfigured = true ↔
      (controller.device board).isConfigured = true ∨ controller.Configures board call := by
  cases prepares : controller.preparation? call.task with
  | some preparation =>
    rcases perform_of_preparation board prepares with ⟨result, state⟩
    rw [Configures, state, result, prepares]
    refine (((controller.device board).meanwhile call.meanwhile).isConfigured_preparation
      preparation call.clock).trans (or_congr_right ?_)
    simp [Device.perform, Device.ready, Device.meanwhile]
  | none =>
    have unprepared : ¬ controller.Configures board call := by
      rintro ⟨config, configures, _⟩
      simp [prepares] at configures
    simp only [unprepared, or_false]
    cases configured : (controller.device board).isConfigured with
    | true =>
      refine iff_of_true (controller.stays prepares _ _ ?_) rfl
      rw [device_ready]
      exact configured
    | false =>
      rcases perform_of_unconfigured prepares configured with ⟨error, refused, _⟩
      rw [refused, Step.refuse, device_ready]
      have still : ((controller.device board).meanwhile call.meanwhile).isConfigured = false :=
        configured
      simp [still]

theorem follows_perform (unconfigured : (controller.device board).isConfigured = false) :
    Device.Follows (controller.device board) (controller.sent board call)
      (controller.device (controller.perform board call).state) := by
  rw [sent]
  cases prepares : controller.preparation? call.task with
  | some preparation =>
    rw [(perform_of_preparation board prepares).2]
    exact Device.follows_perform _ _
  | none =>
    rcases perform_of_unconfigured prepares unconfigured with ⟨error, refused, _⟩
    rw [refused, Step.refuse, device_ready]
    exact ⟨rfl, rfl, (List.append_nil _).symm⟩

/-! ### Calls one after the other -/

theorem isConfigured_after
    (board : controller.Board)
    (calls : List (BoardCall Stream controller.Task)) :
    (controller.device (controller.after board calls)).isConfigured = true ↔
      (controller.device board).isConfigured = true ∨
        ∃ before call behind, calls = before ++ call :: behind ∧
          controller.Configures (controller.after board before) call := by
  induction calls generalizing board with
  | nil => simp [after]
  | cons call calls induction =>
    rw [after, List.foldl_cons]
    refine (induction _).trans ?_
    rw [isConfigured_perform, or_assoc]
    apply or_congr_right
    constructor
    · rintro (configures | ⟨before, other, behind, rfl, configures⟩)
      · exact ⟨[], call, calls, rfl, configures⟩
      · exact ⟨call :: before, other, behind, rfl, configures⟩
    · rintro ⟨before, other, behind, split, configures⟩
      cases before with
      | nil =>
        cases split
        exact .inl configures
      | cons first before =>
        cases split
        exact .inr ⟨before, other, behind, rfl, configures⟩

/-- While a board has no configuration, all that it writes is sent to prepare its device. -/
theorem follows_after
    (board : controller.Board)
    (calls : List (BoardCall Stream controller.Task))
    (unconfigured : (controller.device (controller.after board calls)).isConfigured = false) :
    Device.Follows (controller.device board) (controller.sentIn board calls)
      (controller.device (controller.after board calls)) := by
  induction calls generalizing board with
  | nil => exact .refl _
  | cons call calls induction =>
    have before : (controller.device board).isConfigured = false := by
      rw [← Bool.not_eq_true] at unconfigured ⊢
      exact fun configured => unconfigured
        ((isConfigured_after board (call :: calls)).mpr (.inl configured))
    exact (follows_perform before).trans (induction _ unconfigured)

/-- Whether a transmission prepares the device as one of some calls says. -/
def Prepares
    (controller : Controller Stream Config)
    (calls : List (BoardCall Stream controller.Task))
    (transmission : Transmission Config) :
    Prop :=
  (∃ on, transmission.command = Device.switchCommand on) ∨
    ∃ call ∈ calls, ∃ config,
      controller.preparation? call.task = some (.configure config) ∧
        DeviceConfiguration.validate config = .ok () ∧
          DeviceConfiguration.toCommand config = .ok transmission.command

theorem Prepares.mono
    {calls others : List (BoardCall Stream controller.Task)}
    {transmission : Transmission Config}
    (prepares : controller.Prepares calls transmission)
    (subset : calls ⊆ others) :
    controller.Prepares others transmission := by
  rcases prepares with switch | ⟨call, member, upload⟩
  · exact .inl switch
  · exact .inr ⟨call, subset member, upload⟩

theorem of_mem_sent
    {transmission : Transmission Config}
    (member : transmission ∈ controller.sent board call) :
    Request.read transmission.frame = .ok transmission.command ∧
      controller.Prepares [call] transmission := by
  rw [sent] at member
  split at member
  next preparation prepares =>
    rcases Device.fits_of_mem_transmissions member with ⟨⟨readable, fits⟩, isFor⟩
    refine ⟨readable, ?_⟩
    cases purpose : transmission.purpose with
    | switch on =>
      rw [purpose] at fits
      exact .inl ⟨on, fits⟩
    | upload config =>
      rw [purpose] at fits isFor
      rw [preparation.eq_configure isFor] at prepares
      exact .inr ⟨call, by simp, config, prepares, Device.of_uploadCommand_eq_ok fits⟩
    | order =>
      rw [purpose] at isFor
      rcases isFor with ⟨command, limits, same⟩
      cases preparation <;> simp [Preparation.task] at same
  next => simp at member

theorem of_mem_sentIn
    {calls : List (BoardCall Stream controller.Task)}
    {transmission : Transmission Config}
    (member : transmission ∈ controller.sentIn board calls) :
    Request.read transmission.frame = .ok transmission.command ∧
      controller.Prepares calls transmission := by
  induction calls generalizing board with
  | nil => simp [sentIn] at member
  | cons call calls induction =>
    rcases List.mem_append.mp member with now | later
    · rcases of_mem_sent now with ⟨readable, prepares⟩
      exact ⟨readable, prepares.mono (by simp)⟩
    · rcases induction later with ⟨readable, prepares⟩
      exact ⟨readable, prepares.mono (List.subset_cons_self _ _)⟩

/-- What a board does in calls before its device accepts a configuration. -/
structure Gated
    (controller : Controller Stream Config)
    (board : controller.Board)
    (history : List (BoardCall Stream controller.Task)) :
    Prop where
  /-- The board has a configuration from the first one that its device accepts on. -/
  configured :
    (controller.device (controller.after board history)).isConfigured = true ↔
      ∃ before call behind, history = before ++ call :: behind ∧
        controller.Configures (controller.after board before) call
  /-- Until then it writes only switch commands and uploads of valid configurations. -/
  written : (controller.device (controller.after board history)).isConfigured = false →
    (controller.device (controller.after board history)).session.stream.transfers =
        (controller.device board).session.stream.transfers ++
          (controller.sentIn board history).flatMap Transmission.transfers ∧
      ∀ transmission ∈ controller.sentIn board history,
        Request.read transmission.frame = .ok transmission.command ∧
          controller.Prepares history transmission
  /-- Any other task is refused and does nothing. -/
  refused : (controller.device (controller.after board history)).isConfigured = false →
    ∀ call, controller.preparation? call.task = none →
      ∃ error,
        controller.perform (controller.after board history) call =
            ⟨.error error, controller.ready (controller.after board history) call, call.clock⟩ ∧
          (controller.IsNamed call.task call.clock → error ≠ .clockOverflow)

/-- A board that has no configuration waits for one. -/
theorem gated
    (controller : Controller Stream Config)
    {board : controller.Board}
    (unconfigured : (controller.device board).isConfigured = false)
    (history : List (BoardCall Stream controller.Task)) :
    controller.Gated board history where
  configured := by
    rw [isConfigured_after, unconfigured]
    simp
  written stays := ⟨(follows_after board history stays).transfers, fun _ => of_mem_sentIn⟩
  refused stays _ other := perform_of_unconfigured other stays

end Controller

/-- The device as a board. -/
def Device.controller
    (Stream Config : Type)
    [ByteStream Stream]
    [DeviceConfiguration Config] :
    Controller Stream Config where
  Board := Device (Logged Stream) Config
  Task := DeviceTask Config
  device board := board
  withDevice _ other := other
  run := Device.run
  preparation?
    | .configure config => some (.configure config)
    | .enable => some .enable
    | .disable => some .disable
    | _ => none
  IsNamed _ _ := True
  device_withDevice _ _ := rfl
  run_of_preparation := by
    intro task preparation prepares board clock
    cases task <;> cases prepares <;> rfl
  refuses := by
    intro task other board clock unconfigured
    cases task with
    | updateConfig config =>
      exact ⟨.notConfigured, Device.updateConfig_of_unconfigured unconfigured config clock, by simp⟩
    | execute command limits =>
      refine ⟨.notConfigured, ?_, by simp⟩
      simp only [Device.run, Device.executeWithin, unconfigured]
      rfl
    | configure config => cases other
    | enable => cases other
    | disable => cases other
  stays := by
    intro task other board clock configured
    cases task with
    | updateConfig config => exact Device.isConfigured_updateConfig configured config clock
    | execute command limits =>
      simp only [Device.run, Step.state_map, Device.isConfigured, Device.config_executeWithin]
      exact configured
    | configure config => cases other
    | enable => cases other
    | disable => cases other

end RoverLink
