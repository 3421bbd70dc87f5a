import RoverLink.Decimal.Written
import RoverLink.Link.Params
import RoverLink.Motor.Config

/-!
# Controller settings

What the configuration file of a rover says about its drive train, its motor board and its serial
link, and what a motor board, a link and a session are to be opened with.
-/

namespace RoverLink

open Decimal

/-- The geometry of the drive train. -/
structure RoverSettings where
  wheelDiameter : Binary64
  encoderSteps : Binary64
  maximumSpeed : Binary64
  deriving DecidableEq, Repr

/-- The motor board. -/
structure DriverSettings where
  maximumSignal : Int32
  usePid : Bool
  pid : PidGains
  directions : EncoderDirections
  deriving DecidableEq, Repr

/-- The serial link and the session over it. -/
structure SessionSettings where
  port : String
  baudRate : Nat
  /-- How often a request is sent, the first time included. -/
  maxAttempts : Nat
  /-- How long a reply may take, in milliseconds. -/
  replyTimeout : UInt64
  checksum : ChecksumMode
  deriving DecidableEq, Repr

/-- All settings. -/
structure ControllerSettings where
  rover : RoverSettings
  driver : DriverSettings
  /-- The serial link and the session over it, if there are any. -/
  session : Option SessionSettings
  deriving DecidableEq, Repr

/-- Why settings cannot be loaded, saved or used. -/
inductive SettingsError where
  | io (reason : String)
  | json
  | toml
  | tomlWriting
  /--
  No error that is handed back but a panic of the TOML library: it counts the quotes of a run in an
  octet, and a text of the settings has a run that is longer.
  -/
  | quoteOverflow
  | missingKey (key : String)
  | invalidValue (key reason : String)
  | unsupportedFormat (format : String)
  deriving DecidableEq, Repr

namespace SettingsError

def kind : SettingsError → String
  | .io _ => "Io"
  | .json => "Json"
  | .toml => "Toml"
  | .tomlWriting => "TomlSerialize"
  | .quoteOverflow => "QuoteOverflow"
  | .missingKey _ => "MissingKey"
  | .invalidValue .. => "InvalidValue"
  | .unsupportedFormat _ => "UnsupportedFormat"

/-- An error in words; where a library refuses a text, it says why in words of its own. -/
def message (words : String) : SettingsError → String
  | .io reason => "I/O error: " ++ reason
  | .json => "JSON error: " ++ words
  | .toml => "TOML error: " ++ words
  | .tomlWriting => "TOML error: " ++ words
  | .quoteOverflow => "attempt to add with overflow"
  | .missingKey key => "Missing configuration key: " ++ key
  | .invalidValue key reason => "Invalid setting '" ++ key ++ "': " ++ reason
  | .unsupportedFormat format => "Unsupported config format: " ++ format

def toError (words : String) (error : SettingsError) : Error :=
  .other (error.message words)

end SettingsError

def RoverSettings.standard : RoverSettings :=
  ⟨MotorConfig.standard.wheelDiameter, MotorConfig.standard.encoderSteps,
    MotorConfig.standard.maxSpeed⟩

def DriverSettings.standard : DriverSettings :=
  ⟨100, false, .zero, .forward⟩

def SessionSettings.ofPort (port : String) : SessionSettings :=
  ⟨port, 115200, 5, 1000, .placeholder⟩

namespace ControllerSettings

def standard : ControllerSettings :=
  ⟨.standard, .standard, none⟩

/-- The fault of a measure that is not a positive finite number. -/
def measureFault? (key : String) (value : Binary64) : Option SettingsError :=
  if MotorConfig.isMeasure value then none
  else some (.invalidValue key (String.ofList value.plain ++ " must be > 0"))

/-- The fault of a direction that is no polarity. -/
def directionFault? (side : String) (direction : Int32) : Option SettingsError :=
  if EncoderDirections.isPolarity direction then none
  else some (.invalidValue ("navigation.brush-motor-driver.encoder_directions." ++ side)
    (toString direction.toInt ++ " is not 1 or -1"))

def countFault? (key : String) (count : Nat) : Option SettingsError :=
  if count = 0 then some (.invalidValue key "must be > 0") else none

/-- The first fault of the settings of a session. -/
def sessionFault? (session : SessionSettings) : Option SettingsError :=
  (if session.port = "" then some (.invalidValue "session.port" "must not be empty") else none)
    <|> countFault? "session.baud_rate" session.baudRate
    <|> countFault? "session.max_attempts" session.maxAttempts
    <|> countFault? "session.reply_timeout_ms" session.replyTimeout.toNat

def fault? (settings : ControllerSettings) : Option SettingsError :=
  measureFault? "navigation.rover.wheel_diameter" settings.rover.wheelDiameter
    <|> measureFault? "navigation.rover.encoder_steps" settings.rover.encoderSteps
    <|> measureFault? "navigation.rover.maximum_speed" settings.rover.maximumSpeed
    <|> (if settings.driver.maximumSignal ≤ 0 then
      some (.invalidValue "navigation.brush-motor-driver.maximum_signal_amplitude" "must be > 0")
    else
      none)
    <|> directionFault? "left" settings.driver.directions.left
    <|> directionFault? "right" settings.driver.directions.right
    <|> settings.session.bind sessionFault?

def validate (settings : ControllerSettings) : Except SettingsError Unit :=
  match settings.fault? with
  | some error => .error error
  | none => .ok ()

def motorConfig (settings : ControllerSettings) : MotorConfig where
  encoderSteps := settings.rover.encoderSteps
  wheelDiameter := settings.rover.wheelDiameter
  maxSpeed := settings.rover.maximumSpeed
  maxSignal := settings.driver.maximumSignal
  usePid := settings.driver.usePid
  pid := settings.driver.pid
  directions := settings.driver.directions

/-- The settings of the session; it is an error if there are none. -/
def requireSession (settings : ControllerSettings) : Except SettingsError SessionSettings :=
  match settings.session with
  | some session => .ok session
  | none => .error (.missingKey "session")

def linkParams (settings : ControllerSettings) : Except SettingsError LinkParams :=
  settings.requireSession.map fun session =>
    { LinkParams.ofPort session.port with baudRate := session.baudRate }

def sessionConfig (settings : ControllerSettings) : Except SettingsError SessionConfig :=
  settings.requireSession.map fun session =>
    ⟨.withAttempts session.maxAttempts, .ofMilliseconds session.replyTimeout, session.checksum⟩

end ControllerSettings

end RoverLink
