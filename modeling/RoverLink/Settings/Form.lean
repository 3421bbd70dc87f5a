import RoverLink.Document.Domain
import RoverLink.Settings

/-!
# The document form of settings

The layout of a configuration file: a section for navigation with the geometry and the motor board,
and a section for the session, which may be missing.  Sections and fields that are not known are
passed over.
-/

namespace RoverLink

open Document

instance : DocumentForm RoverSettings where
  toDocument rover :=
    .record [
      ("wheel_diameter", .real rover.wheelDiameter),
      ("encoder_steps", .real rover.encoderSteps),
      ("maximum_speed", .real rover.maximumSpeed)]
  ofDocument? format document := do
    let fields ← document.fields? format.boundsLists
      ["wheel_diameter", "encoder_steps", "maximum_speed"]
    return {
      wheelDiameter := ← fields.required "wheel_diameter" real?
      encoderSteps := ← fields.required "encoder_steps" real?
      maximumSpeed := ← fields.required "maximum_speed" real? }

instance : DocumentForm DriverSettings where
  toDocument driver :=
    .record [
      ("maximum_signal_amplitude", wholeField driver.maximumSignal),
      ("use_pid", .flag driver.usePid),
      ("pid", DocumentForm.toDocument driver.pid),
      ("encoder_directions", DocumentForm.toDocument driver.directions)]
  ofDocument? format document := do
    let fields ← document.fields? format.boundsLists
      ["maximum_signal_amplitude", "use_pid", "pid", "encoder_directions"]
    return {
      maximumSignal := ← fields.required "maximum_signal_amplitude" int32?
      usePid := ← fields.defaulted "use_pid" flag? false
      pid := ← fields.defaulted "pid" (DocumentForm.ofDocument? format) .zero
      directions :=
        ← fields.defaulted "encoder_directions" (DocumentForm.ofDocument? format) .forward }

instance : DocumentForm SessionSettings where
  toDocument session :=
    .record [
      ("port", .text session.port),
      ("baud_rate", .whole session.baudRate),
      ("max_attempts", .whole session.maxAttempts),
      ("reply_timeout_ms", .whole session.replyTimeout.toNat),
      ("checksum", DocumentForm.toDocument session.checksum)]
  ofDocument? format document := do
    let fields ← document.fields? format.boundsLists
      ["port", "baud_rate", "max_attempts", "reply_timeout_ms", "checksum"]
    let port ← fields.required "port" text?
    let standard := SessionSettings.ofPort port
    return {
      port
      baudRate := ← fields.defaulted "baud_rate" (natural? Word.count32) standard.baudRate
      maxAttempts := ← fields.defaulted "max_attempts" (natural? Word.count32) standard.maxAttempts
      replyTimeout := UInt64.ofNat
        (← fields.defaulted "reply_timeout_ms" (natural? Word.count64) standard.replyTimeout.toNat)
      checksum :=
        ← fields.defaulted "checksum" (DocumentForm.ofDocument? format) standard.checksum }

/-- The geometry and the motor board of a navigation section. -/
def navigation? (format : DataFormat) (document : Document) :
    Option (RoverSettings × DriverSettings) := do
  let fields ← document.fields? format.boundsLists ["rover", "brush-motor-driver"]
  return (← fields.required "rover" (DocumentForm.ofDocument? format),
    ← fields.required "brush-motor-driver" (DocumentForm.ofDocument? format))

def sessionFields : Option SessionSettings → List (String × Document)
  | some session => [("session", DocumentForm.toDocument session)]
  | none => []

instance : DocumentForm ControllerSettings where
  toDocument settings :=
    .record (
      ("navigation",
        .record [
          ("rover", DocumentForm.toDocument settings.rover),
          ("brush-motor-driver", DocumentForm.toDocument settings.driver)])
      :: sessionFields settings.session)
  ofDocument? format document := do
    let fields ← document.fields? format.boundsLists ["navigation", "session"]
    let (rover, driver) ← fields.required "navigation" (navigation? format)
    let session ← fields.defaulted "session" (nullable (DocumentForm.ofDocument? format)) none
    return ⟨rover, driver, session⟩

end RoverLink
