import RoverLink.Error

/-!
# Parameters of a serial link
-/

namespace RoverLink

/-- The parity bit of each octet. -/
inductive Parity where
  | none
  | even
  | odd
  deriving DecidableEq, Repr, Inhabited

namespace Parity

def name : Parity → String
  | .none => "none"
  | .even => "even"
  | .odd => "odd"

def named : List (String × Parity) :=
  [("none", .none), ("even", .even), ("odd", .odd)]

end Parity

/-- How to open a serial link. -/
structure LinkParams where
  port : String
  baudRate : Nat
  dataBits : Nat
  parity : Parity
  stopBits : Nat
  flowControl : Bool
  /-- How long one read waits, in milliseconds. -/
  readTimeout : Nat
  deriving DecidableEq, Repr

/-- What is set on the line itself. -/
structure LineSettings where
  baudRate : Nat
  /-- Two stop bits instead of one. -/
  twoStopBits : Bool
  hardwareFlow : Bool
  deriving DecidableEq, Repr

namespace LinkParams

/-- The parameters of the reference boards, for a port. -/
def ofPort (port : String) : LinkParams :=
  ⟨port, 115200, 8, .none, 1, false, 100⟩

/-- The parameters of the reference boards on their usual port. -/
def standard : LinkParams :=
  .ofPort "/dev/ttyACM0"

/-- What is wrong with the parameters, if anything is. -/
def fault? (params : LinkParams) : Option String :=
  if params.port = "" then
    some "port name is empty"
  else if params.baudRate = 0 then
    some "baud rate must be > 0"
  else if params.dataBits < 5 ∨ 8 < params.dataBits then
    some ("invalid data bits: " ++ toString params.dataBits)
  else if params.stopBits < 1 ∨ 2 < params.stopBits then
    some ("invalid stop bits: " ++ toString params.stopBits)
  else
    none

def validate (params : LinkParams) : Except Error Unit :=
  match params.fault? with
  | some reason => .error (.invalidParameters reason)
  | none => .ok ()

def settings (params : LinkParams) : LineSettings :=
  ⟨params.baudRate, params.stopBits = 2, params.flowControl⟩

end LinkParams

end RoverLink
