import RoverLink.Proofs.Json.Printed
import RoverLink.Proofs.Toml.Table
import RoverLink.Settings.Form

/-!
# Reading the document of settings

What is read for the document of settings that was written is the settings
again, with what is read for their numbers (`ofDocument?_reread`).  Everything
else is kept by both formats: the formats only differ in the numbers.
-/

namespace RoverLink

open Decimal Document

/-! ### What is read of a file -/

namespace DataFormat

/-- The document that is read for a record. -/
def reread : DataFormat → Document → Document
  | .json => Json.reread
  | .toml => Toml.reread

/-- The document that is read for a scalar. -/
def rereadScalar : DataFormat → Document → Document
  | .json => Json.rereadScalar
  | .toml => Toml.rereadScalar

/-- The number that is read for a number, if one is. -/
def rereadReal? (format : DataFormat) (number : Binary64) : Option Binary64 :=
  (format.rereadScalar (.real number)).real?

variable (format : DataFormat)

theorem rereadScalar_flag (value : Bool) : format.rereadScalar (.flag value) = .flag value := by
  cases format with
  | json => exact Json.reread_flag value
  | toml => rfl

theorem rereadScalar_text (content : String) :
    format.rereadScalar (.text content) = .text content := by
  cases format with
  | json => exact Json.reread_text content
  | toml => rfl

theorem rereadScalar_natural {number : Nat} (small : number < Word.count64) :
    format.rereadScalar (.whole number) = .whole number := by
  cases format with
  | json => exact Json.reread_whole (by omega) (by exact_mod_cast small)
  | toml => rfl

theorem rereadScalar_wholeField (word : Int32) :
    format.rereadScalar (wholeField word) = wholeField word := by
  have low := word.le_toInt
  have high := word.toInt_lt
  have range : word.toInt < Word.count64 := by
    simp only [Word.count64]
    omega
  cases format with
  | json => exact Json.reread_whole (by omega) range
  | toml => rfl

end DataFormat

/-! ### Settings with other numbers -/

variable (format : DataFormat)

/-- The gains with what is read for each of them. -/
def PidGains.mapNumbers? (read : Binary64 → Option Binary64) (gains : PidGains) :
    Option PidGains := do
  return ⟨← read gains.proportional, ← read gains.integral, ← read gains.derivative⟩

def RoverSettings.mapNumbers? (read : Binary64 → Option Binary64) (rover : RoverSettings) :
    Option RoverSettings := do
  return ⟨← read rover.wheelDiameter, ← read rover.encoderSteps, ← read rover.maximumSpeed⟩

def ControllerSettings.mapNumbers?
    (read : Binary64 → Option Binary64)
    (settings : ControllerSettings) :
    Option ControllerSettings := do
  let rover ← settings.rover.mapNumbers? read
  let pid ← settings.driver.pid.mapNumbers? read
  return ⟨rover, { settings.driver with pid }, settings.session⟩

theorem PidGains.ofDocument?_reread (gains : PidGains) :
    DocumentForm.ofDocument? format (format.reread (DocumentForm.toDocument gains)) =
      gains.mapNumbers? format.rereadReal? := by
  cases format <;> rfl

theorem RoverSettings.ofDocument?_reread (rover : RoverSettings) :
    DocumentForm.ofDocument? format (format.reread (DocumentForm.toDocument rover)) =
      rover.mapNumbers? format.rereadReal? := by
  cases format <;> rfl

theorem int32?_rereadScalar (word : Int32) :
    int32? (format.rereadScalar (wholeField word)) = some word := by
  rw [DataFormat.rereadScalar_wholeField]
  exact Word.int32?_toInt word

theorem EncoderDirections.ofDocument?_reread (directions : EncoderDirections) :
    DocumentForm.ofDocument? format (format.reread (DocumentForm.toDocument directions)) =
      some directions := by
  have read : DocumentForm.ofDocument? format (format.reread (DocumentForm.toDocument directions)) =
      (do
        let left ← int32? (format.rereadScalar (wholeField directions.left))
        let right ← int32? (format.rereadScalar (wholeField directions.right))
        return ⟨left, right⟩ : Option EncoderDirections) := by
    cases format <;> rfl
  rw [read, int32?_rereadScalar, int32?_rereadScalar]
  rfl

theorem DriverSettings.ofDocument?_reread (driver : DriverSettings) :
    DocumentForm.ofDocument? format (format.reread (DocumentForm.toDocument driver)) =
      (driver.pid.mapNumbers? format.rereadReal?).map fun pid => { driver with pid } := by
  have read : DocumentForm.ofDocument? format (format.reread (DocumentForm.toDocument driver)) =
      (do
        let signal ← int32? (format.rereadScalar (wholeField driver.maximumSignal))
        let usePid ← flag? (format.rereadScalar (.flag driver.usePid))
        let pid ← DocumentForm.ofDocument? format
          (format.reread (DocumentForm.toDocument driver.pid))
        let directions ← DocumentForm.ofDocument? format
          (format.reread (DocumentForm.toDocument driver.directions))
        return ⟨signal, usePid, pid, directions⟩ : Option DriverSettings) := by
    cases format <;> rfl
  rw [read, int32?_rereadScalar, DataFormat.rereadScalar_flag, PidGains.ofDocument?_reread,
    EncoderDirections.ofDocument?_reread]
  cases driver.pid.mapNumbers? format.rereadReal? <;> rfl

/-- Whether the numbers of a session have the width that they have in a file. -/
structure SessionSettings.IsSized (session : SessionSettings) : Prop where
  baudRate : session.baudRate < Word.count32
  maxAttempts : session.maxAttempts < Word.count32

theorem natural?_rereadScalar
    {bound number : Nat}
    (small : number < bound)
    (least : bound ≤ Word.count64) :
    natural? bound (format.rereadScalar (.whole number)) = some number := by
  rw [format.rereadScalar_natural (Nat.lt_of_lt_of_le small least)]
  simp [natural?, whole?, small]

theorem ChecksumMode.ofDocument?_rereadScalar (mode : ChecksumMode) :
    DocumentForm.ofDocument? format (format.rereadScalar (DocumentForm.toDocument mode)) =
      some mode := by
  have kept : format.rereadScalar (DocumentForm.toDocument mode) = DocumentForm.toDocument mode :=
    format.rereadScalar_text mode.name
  rw [kept]
  cases mode <;> rfl

theorem SessionSettings.ofDocument?_record
    (port baudRate maxAttempts replyTimeout checksum : Document) :
    DocumentForm.ofDocument? format (.record [("port", port), ("baud_rate", baudRate),
      ("max_attempts", maxAttempts), ("reply_timeout_ms", replyTimeout), ("checksum", checksum)]) =
      (do
        return ⟨← text? port, ← natural? Word.count32 baudRate, ← natural? Word.count32 maxAttempts,
          UInt64.ofNat (← natural? Word.count64 replyTimeout),
          ← DocumentForm.ofDocument? format checksum⟩ : Option SessionSettings) := by
  simp [DocumentForm.ofDocument?, fields?, countName, Fields.required, Fields.defaulted,
    List.lookup_cons]

theorem SessionSettings.ofDocument?_reread
    {session : SessionSettings}
    (sized : session.IsSized) :
    DocumentForm.ofDocument? format (format.reread (DocumentForm.toDocument session)) =
      some session := by
  have record : format.reread (DocumentForm.toDocument session) = .record [
      ("port", format.rereadScalar (.text session.port)),
      ("baud_rate", format.rereadScalar (.whole session.baudRate)),
      ("max_attempts", format.rereadScalar (.whole session.maxAttempts)),
      ("reply_timeout_ms", format.rereadScalar (.whole session.replyTimeout.toNat)),
      ("checksum", format.rereadScalar (DocumentForm.toDocument session.checksum))] := by
    cases format <;> rfl
  have timeout : session.replyTimeout.toNat < Word.count64 := session.replyTimeout.toNat_lt
  rw [record, ofDocument?_record, format.rereadScalar_text,
    natural?_rereadScalar format sized.baudRate (by decide),
    natural?_rereadScalar format sized.maxAttempts (by decide),
    natural?_rereadScalar format timeout (by decide), ChecksumMode.ofDocument?_rereadScalar]
  simp [text?]

theorem SessionSettings.nullable_reread
    {session : SessionSettings}
    (sized : session.IsSized) :
    nullable (DocumentForm.ofDocument? format) (format.reread (DocumentForm.toDocument session)) =
      some (some session) := by
  have present : nullable (DocumentForm.ofDocument? format)
      (format.reread (DocumentForm.toDocument session)) =
        (DocumentForm.ofDocument? format (format.reread (DocumentForm.toDocument session)) :
          Option SessionSettings).map some := by
    cases format <;> rfl
  rw [present, SessionSettings.ofDocument?_reread format sized]
  rfl

theorem navigation?_record (rover driver : Document) :
    navigation? format (.record [("rover", rover), ("brush-motor-driver", driver)]) = (do
      return (← DocumentForm.ofDocument? format rover, ← DocumentForm.ofDocument? format driver)) :=
  rfl

namespace ControllerSettings

theorem ofDocument?_record (navigation : Document) :
    DocumentForm.ofDocument? format (.record [("navigation", navigation)]) =
      (do
        let (rover, driver) ← navigation? format navigation
        return ⟨rover, driver, none⟩ : Option ControllerSettings) := by
  rfl

theorem ofDocument?_record_session (navigation session : Document) :
    DocumentForm.ofDocument? format
      (.record [("navigation", navigation), ("session", session)]) =
      (do
        let (rover, driver) ← navigation? format navigation
        let session ← nullable (DocumentForm.ofDocument? format) session
        return ⟨rover, driver, session⟩ : Option ControllerSettings) := by
  rfl

/-- Settings are read with what is read for their numbers. -/
theorem ofDocument?_reread
    {settings : ControllerSettings}
    (sized : ∀ session, settings.session = some session → session.IsSized) :
    DocumentForm.ofDocument? format (format.reread (DocumentForm.toDocument settings)) =
      settings.mapNumbers? format.rereadReal? := by
  rcases settings with ⟨rover, driver, session⟩
  have navigation : navigation? format (.record [
      ("rover", format.reread (DocumentForm.toDocument rover)),
      ("brush-motor-driver", format.reread (DocumentForm.toDocument driver))]) = (do
        return (← rover.mapNumbers? format.rereadReal?,
          ← (driver.pid.mapNumbers? format.rereadReal?).map fun pid => { driver with pid })) := by
    rw [navigation?_record, RoverSettings.ofDocument?_reread, DriverSettings.ofDocument?_reread]
  simp only [mapNumbers?]
  cases session with
  | none =>
    have record : format.reread
        (DocumentForm.toDocument (ControllerSettings.mk rover driver none)) =
          .record [
            ("navigation", .record [
              ("rover", format.reread (DocumentForm.toDocument rover)),
              ("brush-motor-driver", format.reread (DocumentForm.toDocument driver))])] := by
      cases format <;> rfl
    rw [record, ofDocument?_record, navigation]
    cases rover.mapNumbers? format.rereadReal? <;>
      cases driver.pid.mapNumbers? format.rereadReal? <;> rfl
  | some session =>
    have record : format.reread
        (DocumentForm.toDocument (ControllerSettings.mk rover driver (some session))) =
          .record [
            ("navigation", .record [
              ("rover", format.reread (DocumentForm.toDocument rover)),
              ("brush-motor-driver", format.reread (DocumentForm.toDocument driver))]),
            ("session", format.reread (DocumentForm.toDocument session))] := by
      cases format <;> rfl
    rw [record, ofDocument?_record_session, navigation,
      SessionSettings.nullable_reread format (sized session rfl)]
    cases rover.mapNumbers? format.rereadReal? <;>
      cases driver.pid.mapNumbers? format.rereadReal? <;> rfl

end ControllerSettings

/-! ### Settings as tables -/

open Toml

theorem PidGains.isTabular (gains : PidGains) : IsTabular (DocumentForm.toDocument gains) := by
  refine @isTabular_record ["kp", "ki", "kd"] _ rfl (by decide) (by decide) ?_
  simp only [List.map_cons, List.map_nil, List.forall_mem_cons]
  exact ⟨.scalar rfl, .scalar rfl, .scalar rfl, nofun⟩

theorem EncoderDirections.isTabular (directions : EncoderDirections) :
    IsTabular (DocumentForm.toDocument directions) := by
  refine @isTabular_record ["left", "right"] _ rfl (by decide) (by decide) ?_
  simp only [List.map_cons, List.map_nil, List.forall_mem_cons]
  exact ⟨.scalar rfl, .scalar rfl, nofun⟩

theorem RoverSettings.isTabular (rover : RoverSettings) :
    IsTabular (DocumentForm.toDocument rover) := by
  refine @isTabular_record ["wheel_diameter", "encoder_steps", "maximum_speed"] _ rfl
    (by decide) (by decide) ?_
  simp only [List.map_cons, List.map_nil, List.forall_mem_cons]
  exact ⟨.scalar rfl, .scalar rfl, .scalar rfl, nofun⟩

theorem DriverSettings.isTabular (driver : DriverSettings) :
    IsTabular (DocumentForm.toDocument driver) := by
  refine @isTabular_record ["maximum_signal_amplitude", "use_pid", "pid", "encoder_directions"] _
    rfl (by decide) (by decide) ?_
  simp only [List.map_cons, List.map_nil, List.forall_mem_cons]
  exact ⟨.scalar rfl, .scalar rfl, driver.pid.isTabular, driver.directions.isTabular, nofun⟩

theorem SessionSettings.isTabular (session : SessionSettings) :
    IsTabular (DocumentForm.toDocument session) := by
  refine @isTabular_record ["port", "baud_rate", "max_attempts", "reply_timeout_ms", "checksum"] _
    rfl (by decide) (by decide) ?_
  simp only [List.map_cons, List.map_nil, List.forall_mem_cons]
  exact ⟨.scalar rfl, .scalar rfl, .scalar rfl, .scalar rfl, .scalar rfl, nofun⟩

namespace ControllerSettings

theorem isTabular (settings : ControllerSettings) :
    IsTabular (DocumentForm.toDocument settings) := by
  rcases settings with ⟨rover, driver, session⟩
  have navigation : IsTabular (.record [
      ("rover", DocumentForm.toDocument rover),
      ("brush-motor-driver", DocumentForm.toDocument driver)]) := by
    refine @isTabular_record ["rover", "brush-motor-driver"] _ rfl (by decide) (by decide) ?_
    simp only [List.map_cons, List.map_nil, List.forall_mem_cons]
    exact ⟨rover.isTabular, driver.isTabular, nofun⟩
  cases session with
  | none =>
    refine @isTabular_record ["navigation"] _ rfl (by decide) (by decide) ?_
    exact List.forall_mem_cons.mpr ⟨navigation, nofun⟩
  | some session =>
    refine @isTabular_record ["navigation", "session"] _ rfl (by decide) (by decide) ?_
    exact List.forall_mem_cons.mpr ⟨navigation, List.forall_mem_cons.mpr ⟨session.isTabular, nofun⟩⟩

theorem depth_toDocument_le (settings : ControllerSettings) :
    (DocumentForm.toDocument settings).depth ≤ 80 := by
  have deep : (DocumentForm.toDocument settings).depth = 4 := by
    rcases settings with ⟨rover, driver, session⟩
    cases session <;> rfl
  omega

end ControllerSettings

end RoverLink
