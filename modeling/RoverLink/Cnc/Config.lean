import RoverLink.Device

/-!
# Homing configurations

The axes that a stepper board homes, in their order.  A slot holds an axis, or -1 to home none.
-/

namespace RoverLink

/-- The axis homed in each of three slots. -/
structure CncConfig where
  first : Int32
  second : Int32
  third : Int32
  deriving DecidableEq, Repr

namespace CncConfig

/-- The three axes in their natural order. -/
def standard : CncConfig :=
  ⟨0, 1, 2⟩

def axes (config : CncConfig) : List Int32 :=
  [config.first, config.second, config.third]

/-- Whether a slot holds an axis or is left out. -/
def isAxis (axis : Int32) : Bool :=
  -1 ≤ axis && axis ≤ 2

/-- Whether every slot holds an axis or is left out; the first one that does not is reported. -/
def validate (config : CncConfig) : Except Error Unit :=
  match config.axes.find? fun axis => !isAxis axis with
  | some axis =>
    .error (.invalidConfiguration
      ("homing axis " ++ toString axis.toInt ++ " is not -1, 0, 1 or 2"))
  | none => .ok ()

def toCommand (config : CncConfig) : Except Error Command :=
  (Command.make 'h' (config.axes.map Int32.toInt64)).mapError CommandError.toError

end CncConfig

instance : DeviceConfiguration CncConfig where
  validate := CncConfig.validate
  toCommand := CncConfig.toCommand

end RoverLink
