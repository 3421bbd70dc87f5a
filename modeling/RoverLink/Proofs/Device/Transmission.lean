import RoverLink.Device
import RoverLink.Proofs.Session.Conclusion
import RoverLink.Proofs.Session.Log

/-!
# What a device transmits

A transmission is a command that a device sent, with its purpose, its frame and
the endings of its attempts.  The last attempt says whether the command was
acknowledged or refused, and this settles the task that it was sent for
(`Transmission.Settles`).
-/

namespace RoverLink

/-- The reply with which an attempt was answered. -/
def Ending.reply? : Ending → Option Reply
  | .awaited (.reply reply) => some reply
  | _ => none

theorem Ending.eq_of_reply?_eq_some
    {ending : Ending}
    {reply : Reply}
    (answered : ending.reply? = some reply) :
    ending = .awaited (.reply reply) := by
  rcases ending with error | awaited
  · simp [reply?] at answered
  · cases awaited <;> simp_all [reply?]

/-! ### Transmissions -/

/-- What a device sends a command for. -/
inductive Purpose (Config : Type) where
  | switch (on : Bool)
  | upload (config : Config)
  | order

/-- A command that a device sent, and how its attempts ended. -/
structure Transmission (Config : Type) where
  purpose : Purpose Config
  command : Command
  frame : List Char
  attempts : List Ending

namespace Transmission

variable {Config : Type}

/-- The reply with which the last attempt was answered. -/
def answer? (transmission : Transmission Config) : Option Reply :=
  transmission.attempts.getLast?.bind Ending.reply?

/-- Whether the command was answered with success. -/
def isAcknowledged (transmission : Transmission Config) : Bool :=
  transmission.answer?.any fun reply => reply.status == 0

/-- Whether the command was answered with a positive status. -/
def IsRefused
    (transmission : Transmission Config)
    (code : Int32)
    (text : Option String) :
    Prop :=
  ∃ reply, transmission.answer? = some reply ∧ 0 < reply.status ∧
    reply.status = code ∧ reply.message = text

/-- How the outputs were switched, if the command was to switch them and was acknowledged. -/
def switched? (transmission : Transmission Config) : Option Bool :=
  match transmission.purpose with
  | .switch on => if transmission.isAcknowledged then some on else none
  | _ => none

/-- The configuration that was uploaded, if the command was to upload one and was acknowledged. -/
def uploaded? (transmission : Transmission Config) : Option Config :=
  match transmission.purpose with
  | .upload config => if transmission.isAcknowledged then some config else none
  | _ => none

/-- What was to be written for the command. -/
def transfers (transmission : Transmission Config) : List Transfer :=
  transmission.attempts.map (Ending.transfer (Text.Utf8.encode transmission.frame))

/-- How the outputs were switched by the last of some commands that did so. -/
def lastSwitched (transmissions : List (Transmission Config)) : Option Bool :=
  (transmissions.filterMap switched?).getLast?

/-- The configuration that was uploaded by the last of some commands that did so. -/
def lastUploaded (transmissions : List (Transmission Config)) : Option Config :=
  (transmissions.filterMap uploaded?).getLast?

@[simp]
theorem lastSwitched_append (earlier later : List (Transmission Config)) :
    lastSwitched (earlier ++ later) = (lastSwitched later).or (lastSwitched earlier) := by
  simp [lastSwitched, List.getLast?_append]

@[simp]
theorem lastUploaded_append (earlier later : List (Transmission Config)) :
    lastUploaded (earlier ++ later) = (lastUploaded later).or (lastUploaded earlier) := by
  simp [lastUploaded, List.getLast?_append]

theorem lastSwitched_singleton (transmission : Transmission Config) :
    lastSwitched [transmission] = transmission.switched? := by
  cases switched : transmission.switched? <;> simp [lastSwitched, switched]

theorem lastUploaded_singleton (transmission : Transmission Config) :
    lastUploaded [transmission] = transmission.uploaded? := by
  cases uploaded : transmission.uploaded? <;> simp [lastUploaded, uploaded]

/-! ### Transmissions and results -/

variable {transmission : Transmission Config} {result : Except Error Reply}

theorem answer?_eq_some_iff {reply : Reply} :
    transmission.answer? = some reply ↔
      transmission.attempts.getLast? = some (.awaited (.reply reply)) := by
  rw [answer?, Option.bind_eq_some_iff]
  constructor
  · rintro ⟨ending, last, answered⟩
    rw [last, Ending.eq_of_reply?_eq_some answered]
  · intro last
    exact ⟨_, last, rfl⟩

theorem isAcknowledged_eq_true_iff :
    transmission.isAcknowledged = true ↔
      ∃ reply, transmission.attempts.getLast? = some (.awaited (.reply reply)) ∧
        reply.status = 0 := by
  simp [isAcknowledged, Option.any_eq_true, answer?_eq_some_iff]

/-- A command is acknowledged exactly if sending it gives a reply. -/
theorem isAcknowledged_iff_of_concluded
    (concluded : Concluded transmission.attempts.getLast? result) :
    transmission.isAcknowledged = true ↔ ∃ reply, result = .ok reply := by
  rw [isAcknowledged_eq_true_iff]
  generalize transmission.attempts.getLast? = last at concluded
  cases concluded with
  | success status => simp [status]
  | refusal positive =>
    constructor
    · rintro ⟨reply, same, success⟩
      cases same
      exact absurd success.symm (Int32.ne_of_lt positive)
    · rintro ⟨reply, same⟩
      cases same
  | failure unanswered _ =>
    constructor
    · rintro ⟨reply, answered, success⟩
      exact absurd success (Int32.ne_of_lt (unanswered reply answered))
    · rintro ⟨reply, same⟩
      cases same

/-- A command is refused exactly if sending it gives an error of the device. -/
theorem isRefused_iff_of_concluded
    (concluded : Concluded transmission.attempts.getLast? result)
    (code : Int32)
    (text : Option String) :
    transmission.IsRefused code text ↔ result = .error (.deviceError code text) := by
  simp only [IsRefused, answer?_eq_some_iff]
  generalize transmission.attempts.getLast? = last at concluded
  cases concluded with
  | success status =>
    constructor
    · rintro ⟨reply, same, positive, _⟩
      cases same
      exact absurd status.symm (Int32.ne_of_lt positive)
    · intro same
      cases same
  | refusal positive => simp [positive]
  | failure unanswered foreign =>
    constructor
    · rintro ⟨reply, answered, positive, _⟩
      exact absurd positive (Int32.lt_asymm (unanswered reply answered))
    · intro same
      cases same
      simp [Error.deviceCode] at foreign

/-- Sending a command never ends with a rejected configuration. -/
theorem ne_configurationRejected_of_concluded
    {error : Error}
    (concluded : Concluded transmission.attempts.getLast? (.error error))
    (code : Int32)
    (text : Option String) :
    error ≠ .configurationRejected code text := by
  generalize transmission.attempts.getLast? = last at concluded
  rintro rfl
  cases concluded with
  | failure _ foreign => simp [Error.deviceCode] at foreign

/-- A rejected configuration stands for an error of the device. -/
theorem rejection_eq_iff
    {error : Error}
    {code : Int32}
    {text : Option String}
    (foreign : error ≠ .configurationRejected code text) :
    Device.rejection error = .configurationRejected code text ↔
      error = .deviceError code text := by
  cases error with
  | configurationRejected => simpa [Device.rejection] using foreign
  | _ => simp [Device.rejection]

/-- What the result of a task says about the last command that was sent for it. -/
structure Settles (transmission : Transmission Config) (result : Except Error Unit) : Prop where
  /-- The task succeeds exactly if the command was acknowledged. -/
  acknowledged : transmission.isAcknowledged = true ↔ result = .ok ()
  /-- A configuration is rejected exactly if its upload was refused. -/
  rejected : ∀ code text,
    result = .error (.configurationRejected code text) ↔
      transmission.IsRefused code text ∧ ∃ config, transmission.purpose = .upload config

/-- A command that settles a task with an error has changed nothing. -/
theorem Settles.unchanged
    {error : Error}
    (settled : transmission.Settles (.error error)) :
    transmission.switched? = none ∧ transmission.uploaded? = none := by
  have unacknowledged : transmission.isAcknowledged = false := by
    cases acknowledged : transmission.isAcknowledged with
    | false => rfl
    | true => simpa using settled.acknowledged.mp acknowledged
  rw [switched?, uploaded?]
  cases transmission.purpose <;> simp [unacknowledged]

theorem switched?_of_acknowledged
    {on : Bool}
    (purpose : transmission.purpose = .switch on)
    (acknowledged : transmission.isAcknowledged = true) :
    transmission.switched? = some on := by
  simp [switched?, purpose, acknowledged]

theorem of_switched?_eq_some
    {on : Bool}
    (switched : transmission.switched? = some on) :
    transmission.purpose = .switch on ∧ transmission.isAcknowledged = true := by
  rw [switched?] at switched
  split at switched
  next value purpose =>
    split at switched
    next acknowledged =>
      cases switched
      exact ⟨purpose, acknowledged⟩
    next => simp at switched
  next => simp at switched

/-- A command that uploads nothing settles a task with its own result. -/
theorem settles_of_concluded
    (concluded : Concluded transmission.attempts.getLast? result)
    (other : ∀ config, transmission.purpose ≠ .upload config) :
    transmission.Settles (result.map fun _ => ()) where
  acknowledged := by
    rw [isAcknowledged_iff_of_concluded concluded]
    cases result <;> simp [Except.map]
  rejected code text := by
    constructor
    · intro rejected
      cases result with
      | ok reply => simp [Except.map] at rejected
      | error error =>
        cases rejected
        exact (ne_configurationRejected_of_concluded concluded code text rfl).elim
    · rintro ⟨_, config, upload⟩
      exact (other config upload).elim

/-- An upload settles a task, and its refusal is a rejected configuration. -/
theorem settles_of_concluded_upload
    (concluded : Concluded transmission.attempts.getLast? result)
    {config : Config}
    (upload : transmission.purpose = .upload config) :
    transmission.Settles ((result.map fun _ => ()).mapError Device.rejection) where
  acknowledged := by
    rw [isAcknowledged_iff_of_concluded concluded]
    cases result with
    | ok reply => exact ⟨fun _ => rfl, fun _ => ⟨reply, rfl⟩⟩
    | error error =>
      constructor
      · rintro ⟨reply, same⟩
        cases same
      · intro same
        cases same
  rejected code text := by
    rw [isRefused_iff_of_concluded concluded, and_iff_left ⟨config, upload⟩]
    cases result with
    | ok reply =>
      constructor
      · intro same
        cases same
      · intro same
        cases same
    | error error =>
      have foreign := ne_configurationRejected_of_concluded concluded code text
      change Except.error (Device.rejection error) = _ ↔ _
      rw [Except.error.injEq, Except.error.injEq, rejection_eq_iff foreign]

end Transmission

end RoverLink
