import RoverLink.Session

/-!
# Configurable devices

A device starts without a configuration.  Once it has accepted one it can be switched on and off,
and configured anew, which switches it off first.  Commands other than these are refused, without a
word to the device, until a configuration has been accepted.
-/

namespace RoverLink

/-- The life of a device. -/
inductive DeviceState where
  | constructed
  | disabled
  | enabled
  deriving DecidableEq, Repr, Inhabited

namespace DeviceState

def name : DeviceState → String
  | .constructed => "Constructed"
  | .disabled => "Disabled"
  | .enabled => "Enabled"

def named : List (String × DeviceState) :=
  [("Constructed", .constructed), ("Disabled", .disabled), ("Enabled", .enabled)]

end DeviceState

/-- Configurations that one command uploads to a device. -/
class DeviceConfiguration (Config : Type) where
  validate : Config → Except Error Unit
  toCommand : Config → Except Error Command

/-- A device on a session of its own. -/
structure Device (Stream Config : Type) where
  name : String
  session : Session Stream
  config : Option Config
  /-- Whether the outputs were last switched on. -/
  enabled : Bool

namespace Device

variable {Stream Config : Type} [ByteStream Stream] [DeviceConfiguration Config]

def new (name : String) (session : Session Stream) : Device Stream Config :=
  ⟨name, session, none, false⟩

def state (device : Device Stream Config) : DeviceState :=
  match device.config, device.enabled with
  | none, _ => .constructed
  | some _, false => .disabled
  | some _, true => .enabled

def isConfigured (device : Device Stream Config) : Bool :=
  device.config.isSome

/-- The accepted configuration; it is an error if there is none. -/
def requireConfig (device : Device Stream Config) : Except Error Config :=
  match device.config with
  | some config => .ok config
  | none => .error .notConfigured

/-- Send a command, whatever the state of the device. -/
def transmit (device : Device Stream Config) (command : Command) (limits : Limits) (clock : Clock) :
    Step (Device Stream Config) Reply :=
  (device.session.sendWithin command limits clock).within fun session => { device with session }

/-- The error of an upload: a refusal by the device is a rejected configuration. -/
def rejection : Error → Error
  | .deviceError code text => .configurationRejected code text
  | other => other

/-- Upload a configuration by its command, and keep it if the device accepts it. -/
def upload (device : Device Stream Config) (config : Config) (command : Command) (clock : Clock) :
    Step (Device Stream Config) Unit :=
  let sent := device.transmit command .none clock
  match sent.result with
  | .ok _ => ⟨.ok (), { sent.state with config := some config }, sent.clock⟩
  | .error error => ⟨.error (rejection error), sent.state, sent.clock⟩

/-- The command that uploads a configuration, if its values can be used. -/
def uploadCommand (config : Config) : Except Error Command :=
  match DeviceConfiguration.validate config with
  | .ok () => DeviceConfiguration.toCommand config
  | .error error => .error error

def switchCommand (on : Bool) : Command :=
  .switch 'E' (Eq.refl true) on

def setEnabled (device : Device Stream Config) (on : Bool) (clock : Clock) :
    Step (Device Stream Config) Unit :=
  let sent := device.transmit (switchCommand on) .none clock
  match sent.result with
  | .ok _ => ⟨.ok (), { sent.state with enabled := on }, sent.clock⟩
  | .error error => ⟨.error error, sent.state, sent.clock⟩

def enable (device : Device Stream Config) (clock : Clock) : Step (Device Stream Config) Unit :=
  device.setEnabled true clock

def disable (device : Device Stream Config) (clock : Clock) : Step (Device Stream Config) Unit :=
  device.setEnabled false clock

/-- Switch the outputs off if they were last switched on. -/
def ensureDisabled (device : Device Stream Config) (clock : Clock) :
    Step (Device Stream Config) Unit :=
  if device.enabled then device.disable clock else ⟨.ok (), device, clock⟩

/-- Check and upload a configuration; the outputs are off afterwards. -/
def configure (device : Device Stream Config) (config : Config) (clock : Clock) :
    Step (Device Stream Config) Unit :=
  match uploadCommand config with
  | .error error => .refuse error device clock
  | .ok command =>
    let off := device.ensureDisabled clock
    match off.result with
    | .error error => ⟨.error error, off.state, off.clock⟩
    | .ok () => off.state.upload config command off.clock

/-- Check and upload a configuration without switching the outputs off. -/
def updateConfig (device : Device Stream Config) (config : Config) (clock : Clock) :
    Step (Device Stream Config) Unit :=
  match device.requireConfig with
  | .error error => .refuse error device clock
  | .ok _ =>
    match uploadCommand config with
    | .error error => .refuse error device clock
    | .ok command => device.upload config command clock

/-- Send a command within limits, if the device has a configuration. -/
def executeWithin
    (device : Device Stream Config)
    (command : Command)
    (limits : Limits)
    (clock : Clock) :
    Step (Device Stream Config) Reply :=
  if device.isConfigured then device.transmit command limits clock
  else .refuse .notConfigured device clock

/-- Send a command, if the device has a configuration. -/
def execute (device : Device Stream Config) (command : Command) (clock : Clock) :
    Step (Device Stream Config) Reply :=
  device.executeWithin command .none clock

end Device

end RoverLink
