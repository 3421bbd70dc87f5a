import RoverLink.Cnc
import RoverLink.Document.Form
import RoverLink.Link.Params
import RoverLink.Motor

/-!
# The document forms of states, configurations and readings

Each type is a choice among named states, or a record whose fields come in the order in which they
are declared.
-/

namespace RoverLink

open Document

def wholeField (value : Int32) : Document :=
  .whole value.toInt

def choiceDocument (name : String) : Document :=
  .text name

instance : DocumentForm DeviceState where
  toDocument state := choiceDocument state.name
  ofDocument? format document := document.choice? format.isVacant DeviceState.named

instance : DocumentForm MotorState where
  toDocument state := choiceDocument state.name
  ofDocument? format document := document.choice? format.isVacant MotorState.named

instance : DocumentForm CncState where
  toDocument state := choiceDocument state.name
  ofDocument? format document := document.choice? format.isVacant CncState.named

instance : DocumentForm ChecksumMode where
  toDocument mode := choiceDocument mode.name
  ofDocument? format document := document.choice? format.isVacant ChecksumMode.named

instance : DocumentForm Parity where
  toDocument parity := choiceDocument parity.name
  ofDocument? format document := document.choice? format.isVacant Parity.named

instance : DocumentForm ReplyValue where
  toDocument
    | .number value => .real value
    | .text value => .text value
  ofDocument?
    | _, .text value => some (.text value)
    | _, document => document.real?.map .number

instance : DocumentForm EncoderValues where
  toDocument values :=
    .record [
      ("left", .whole values.left.toInt),
      ("right", .whole values.right.toInt),
      ("timestamp", (values.timestamp.map Document.real).getD .null)]
  ofDocument? format document := do
    let fields ← document.fields? format.boundsLists ["left", "right", "timestamp"]
    return {
      left := ← fields.required "left" int64?
      right := ← fields.required "right" int64?
      timestamp := ← fields.optional "timestamp" real? }

instance : DocumentForm PidGains where
  toDocument gains :=
    .record [
      ("kp", .real gains.proportional),
      ("ki", .real gains.integral),
      ("kd", .real gains.derivative)]
  ofDocument? format document := do
    let fields ← document.fields? format.boundsLists ["kp", "ki", "kd"]
    return {
      proportional := ← fields.required "kp" real?
      integral := ← fields.required "ki" real?
      derivative := ← fields.required "kd" real? }

instance : DocumentForm EncoderDirections where
  toDocument directions :=
    .record [("left", wholeField directions.left), ("right", wholeField directions.right)]
  ofDocument? format document := do
    let fields ← document.fields? format.boundsLists ["left", "right"]
    return {
      left := ← fields.required "left" int32?
      right := ← fields.required "right" int32? }

instance : DocumentForm MotorConfig where
  toDocument config :=
    .record [
      ("encoder_steps", .real config.encoderSteps),
      ("wheel_diameter", .real config.wheelDiameter),
      ("max_speed", .real config.maxSpeed),
      ("max_signal", wholeField config.maxSignal),
      ("use_pid", .flag config.usePid),
      ("pid", DocumentForm.toDocument config.pid),
      ("encoder_directions", DocumentForm.toDocument config.directions)]
  ofDocument? format document := do
    let fields ← document.fields? format.boundsLists
      ["encoder_steps", "wheel_diameter", "max_speed", "max_signal", "use_pid", "pid",
        "encoder_directions"]
    return {
      encoderSteps := ← fields.required "encoder_steps" real?
      wheelDiameter := ← fields.required "wheel_diameter" real?
      maxSpeed := ← fields.required "max_speed" real?
      maxSignal := ← fields.required "max_signal" int32?
      usePid := ← fields.required "use_pid" flag?
      pid := ← fields.required "pid" (DocumentForm.ofDocument? format)
      directions := ← fields.required "encoder_directions" (DocumentForm.ofDocument? format) }

/-- The slots of a homing configuration, if a document lists three. -/
def axes? : Document → Option CncConfig
  | .list [first, second, third] => do
    return ⟨← int32? first, ← int32? second, ← int32? third⟩
  | _ => none

instance : DocumentForm CncConfig where
  toDocument config := .record [("homing_axes", .list (config.axes.map wholeField))]
  ofDocument? format document := do
    let fields ← document.fields? format.boundsLists ["homing_axes"]
    fields.required "homing_axes" axes?

instance : DocumentForm LinkParams where
  toDocument params :=
    .record [
      ("port", .text params.port),
      ("baud_rate", .whole params.baudRate),
      ("data_bits", .whole params.dataBits),
      ("parity", DocumentForm.toDocument params.parity),
      ("stop_bits", .whole params.stopBits),
      ("flow_control", .flag params.flowControl),
      ("read_timeout_ms", .whole params.readTimeout)]
  ofDocument? format document := do
    let fields ← document.fields? format.boundsLists
      ["port", "baud_rate", "data_bits", "parity", "stop_bits", "flow_control", "read_timeout_ms"]
    return {
      port := ← fields.required "port" text?
      baudRate := ← fields.required "baud_rate" (natural? Word.count32)
      dataBits := ← fields.required "data_bits" (natural? Word.count8)
      parity := ← fields.required "parity" (DocumentForm.ofDocument? format)
      stopBits := ← fields.required "stop_bits" (natural? Word.count8)
      flowControl := ← fields.required "flow_control" flag?
      readTimeout := ← fields.required "read_timeout_ms" (natural? Word.count64) }

end RoverLink
