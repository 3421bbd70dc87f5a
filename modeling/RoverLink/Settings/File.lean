import RoverLink.Settings.Form
import RoverLink.System.Fault
import RoverLink.Text.Split
import RoverLink.Text.Utf8
import RoverLink.Toml.Printer
import RoverLink.Toml.Reader

/-!
# Settings files

The extension of its name decides in which format a file is read and written, whatever the case of
its letters.  Settings are checked before they are written and after they are read.  What becomes of
a file is up to the system, so its answer is handed to `load` and `save`.
-/

namespace RoverLink.ControllerSettings

/-- The last name of a path that is not empty; a step upwards is no name. -/
def fileName? (path : List Char) : Option (List Char) :=
  match ((Text.splitEvery '/' path).filter fun name => name ≠ [] ∧ name ≠ ['.']).getLast? with
  | some ['.', '.'] => none
  | name? => name?

/-- What follows the last point of a name, in lower case; a point at the start does not count. -/
def extension? (name : List Char) : Option (List Char) :=
  match Text.splitLast? '.' name with
  | some ([], _) => none
  | some (_, extension) => some (extension.map Char.toLower)
  | none => none

def formatOf (path : List Char) : Except SettingsError DataFormat :=
  match ((fileName? path).bind extension?).map String.ofList with
  | some "json" => .ok .json
  | some "toml" => .ok .toml
  | some other => .error (.unsupportedFormat other)
  | none => .error (.unsupportedFormat "none")

def read (format : DataFormat) (text : List Char) : Except SettingsError ControllerSettings :=
  match format with
  | .json =>
    match (Json.read? text).bind (DocumentForm.ofDocument? .json) with
    | some settings => .ok settings
    | none => .error .json
  | .toml =>
    match (Toml.read? text).bind (DocumentForm.ofDocument? .toml) with
    | some settings => .ok settings
    | none => .error .toml

/-- Settings that have been read, if they can be used. -/
def checked (settings : ControllerSettings) : Except SettingsError ControllerSettings :=
  match settings.validate with
  | .ok () => .ok settings
  | .error error => .error error

def ofJson (text : List Char) : Except SettingsError ControllerSettings :=
  match read .json text with
  | .ok settings => settings.checked
  | .error error => .error error

def write (format : DataFormat) (settings : ControllerSettings) :
    Except SettingsError (List Char) :=
  match format with
  | .json => .ok (Json.pretty (DocumentForm.toDocument settings))
  | .toml =>
    match Toml.write (DocumentForm.toDocument settings) with
    | .ok text => .ok text
    | .error .unwritable => .error .tomlWriting
    | .error .quoteOverflow => .error .quoteOverflow

/--
What comes of a request for a file, for what the system answers; the system is not asked about a
path with a zero in it.
-/
def asked {Answer : Type} (path : List Char) (answer : Except SystemFault Answer) :
    Except SettingsError Answer :=
  if path.contains '\x00' then .error (.io "file name contained an unexpected NUL byte")
  else answer.mapError fun fault => .io fault.numbered

/-- The failure of reading a file that holds no text. -/
def notText : SettingsError :=
  .io "stream did not contain valid UTF-8"

/-- Load the settings of the file at a path, for what the system answers when it is read. -/
def load (path : List Char) (content : Except SystemFault (List UInt8)) :
    Except SettingsError ControllerSettings :=
  match asked path content with
  | .error error => .error error
  | .ok octets =>
    match Text.Utf8.decode? octets with
    | none => .error notText
    | some text =>
      match formatOf path with
      | .error error => .error error
      | .ok format =>
        match read format text with
        | .error error => .error error
        | .ok settings => settings.checked

/-- The text that is saved to the file at a path, for what the system answers to the write. -/
def save (settings : ControllerSettings) (path : List Char) (written : Except SystemFault Unit) :
    Except SettingsError (List Char) :=
  match settings.validate with
  | .error error => .error error
  | .ok () =>
    match formatOf path with
    | .error error => .error error
    | .ok format =>
      match settings.write format with
      | .error error => .error error
      | .ok text =>
        match asked path written with
        | .error error => .error error
        | .ok () => .ok text

/-- Equality of numbers by value. -/
def sameGains (left right : PidGains) : Bool :=
  left.proportional.sameValue right.proportional && left.integral.sameValue right.integral &&
    left.derivative.sameValue right.derivative

/-- Equality of settings in which numbers are compared by value. -/
def sameValues (left right : ControllerSettings) : Bool :=
  left.rover.wheelDiameter.sameValue right.rover.wheelDiameter &&
    left.rover.encoderSteps.sameValue right.rover.encoderSteps &&
    left.rover.maximumSpeed.sameValue right.rover.maximumSpeed &&
    left.driver.maximumSignal == right.driver.maximumSignal &&
    left.driver.usePid == right.driver.usePid &&
    sameGains left.driver.pid right.driver.pid &&
    left.driver.directions == right.driver.directions &&
    left.session == right.session

end RoverLink.ControllerSettings
