import RoverLink.Error
import RoverLink.System.Fault

/-!
# Ports that may have a board

Boards show up under a few names.  `controllerPorts` keeps the ports of a system with such a name
and describes them in words.
-/

namespace RoverLink

/-- What a port is attached to. -/
inductive PortKind where
  /-- A device on the universal serial bus, as far as it tells what it is. -/
  | usb (manufacturer product serial : Option String)
  | bluetooth
  | pci
  | unknown
  deriving DecidableEq, Repr

/-- A port of the system. -/
structure Port where
  name : String
  kind : PortKind
  deriving DecidableEq, Repr

/-- A port as it is shown to the user. -/
structure PortInfo where
  name : String
  description : String
  manufacturer : Option String
  serialNumber : Option String
  deriving DecidableEq, Repr

namespace PortInfo

/-- A port of which only name and description are known. -/
def ofName (name description : String) : PortInfo :=
  ⟨name, description, none, none⟩

end PortInfo

namespace PortKind

def description : PortKind → String
  | .usb manufacturer product _ =>
    "USB " ++ manufacturer.getD "Device" ++ " " ++ product.getD "Serial Port"
  | .bluetooth => "Bluetooth Serial"
  | .pci => "PCI Serial"
  | .unknown => "Serial Port"

end PortKind

namespace Port

/-- The beginnings of the names of ports with a board, on systems that name them by paths. -/
def boardPaths : List String :=
  ["/dev/ttyACM", "/dev/ttyUSB", "/dev/cu.usbmodem", "/dev/cu.usbserial-"]

/-- Whether a name is one under which boards show up: `COM` and digits, or a known path. -/
def isBoardName (name : String) : Bool :=
  match name.toList with
  | 'C' :: 'O' :: 'M' :: number => !number.isEmpty && number.all Char.isDigit
  | path => boardPaths.any fun start => start.toList.isPrefixOf path

def info (port : Port) : PortInfo :=
  match port.kind with
  | .usb manufacturer _ serial => ⟨port.name, port.kind.description, manufacturer, serial⟩
  | kind => .ofName port.name kind.description

end Port

/--
The ports that may have a board, in the order of the system, or why it does not list its ports.
-/
def controllerPorts (ports : Except SystemFault (List Port)) : Except Error (List PortInfo) :=
  match ports with
  | .error fault => .error (.invalidParameters ("failed to enumerate ports: " ++ fault.message))
  | .ok ports => .ok ((ports.filter fun port => Port.isBoardName port.name).map Port.info)

end RoverLink
