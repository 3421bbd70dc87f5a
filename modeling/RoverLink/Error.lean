/-!
# Errors

Every reason for which an operation on a device can fail, and the sentence that tells it.  A cause
carries what its sentence mentions.  Where the JSON library refuses a text, the sentence ends in
words of that library; these are not known here, and `Error.message` is given them.
-/

namespace RoverLink

/-- What an error says to be wrong with a line. -/
inductive Reason where
  | words (text : String)
  /-- The JSON library refuses the list of values. -/
  | refusedList (list : String)
  deriving DecidableEq, Repr

namespace Reason

instance : Coe String Reason :=
  ⟨words⟩

/-- A reason in words, where `explain` gives those of the JSON library for a text it refuses. -/
def text (explain : String → String) : Reason → String
  | .words text => text
  | .refusedList list => "invalid value list: " ++ explain list

end Reason

/-- Why an operation failed. -/
inductive Error where
  | malformedReply (line : String) (reason : Reason)
  | invalidCommand (reason : String)
  /-- The device answered a request with a positive status. -/
  | deviceError (code : Int32) (text : Option String)
  /-- No attempt of a request was answered with success. -/
  | retriesExhausted (command : String) (attempts : Nat)
  | notConfigured
  /-- The device answered a configuration with a positive status. -/
  | configurationRejected (code : Int32) (text : Option String)
  | invalidConfiguration (reason : String)
  | signalOutOfRange (signal maximum : Int32)
  | invalidArgument (reason : String)
  | timeout (milliseconds : Nat)
  | cancelled
  | failedToOpen (port reason : String)
  /-- The link failed in a way that another attempt cannot mend. -/
  | linkLost (reason : String)
  | invalidParameters (reason : String)
  | io (reason : String)
  | other (text : String)
  /-- No error that is handed back but a panic: an instant is beyond the range of the clock. -/
  | clockOverflow
  deriving DecidableEq, Repr

namespace Error

def kind : Error → String
  | .malformedReply .. => "MalformedReply"
  | .invalidCommand _ => "InvalidCommand"
  | .deviceError .. => "DeviceError"
  | .retriesExhausted .. => "RetriesExhausted"
  | .notConfigured => "NotConfigured"
  | .configurationRejected .. => "ConfigurationRejected"
  | .invalidConfiguration _ => "InvalidConfiguration"
  | .signalOutOfRange .. => "SignalOutOfRange"
  | .invalidArgument _ => "InvalidArgument"
  | .timeout _ => "Timeout"
  | .cancelled => "Cancelled"
  | .failedToOpen .. => "FailedToOpen"
  | .linkLost _ => "LinkLost"
  | .invalidParameters _ => "InvalidParameters"
  | .io _ => "Io"
  | .other _ => "Other"
  | .clockOverflow => "ClockOverflow"

/-- An error in words, where `explain` gives those of the JSON library for a text it refuses. -/
def message (explain : String → String) : Error → String
  | .malformedReply line reason => "Malformed reply '" ++ line ++ "': " ++ reason.text explain
  | .invalidCommand reason => "Invalid command: " ++ reason
  | .deviceError code text =>
    "Device error " ++ toString code.toInt ++ ": " ++ text.getD "no message"
  | .retriesExhausted command attempts =>
    "Command failed: retries exhausted after " ++ toString attempts ++ " attempts (" ++ command ++
      ")"
  | .notConfigured => "Controller not configured"
  | .configurationRejected code text =>
    "Configuration rejected by device (code " ++ toString code.toInt ++ "): " ++
      text.getD "no message"
  | .invalidConfiguration reason => "Invalid configuration: " ++ reason
  | .signalOutOfRange signal maximum =>
    "Signal " ++ toString signal.toInt ++ " exceeds maximum amplitude " ++ toString maximum.toInt
  | .invalidArgument reason => "Invalid argument: " ++ reason
  | .timeout milliseconds =>
    "Controller operation timed out after " ++ toString milliseconds ++ "ms"
  | .cancelled => "Controller operation cancelled"
  | .failedToOpen port reason => "Failed to open port " ++ port ++ ": " ++ reason
  | .linkLost reason => "Connection lost: " ++ reason
  | .invalidParameters reason => "Invalid connection parameters: " ++ reason
  | .io reason => "I/O error: " ++ reason
  | .other text => text
  | .clockOverflow => "overflow when adding duration to instant"

/-- Whether the link is gone and has to be opened anew. -/
def isLinkLost : Error → Bool
  | .linkLost _ => true
  | _ => false

def isTimeout : Error → Bool
  | .timeout _ => true
  | _ => false

def isCancelled : Error → Bool
  | .cancelled => true
  | _ => false

/-- The status with which the device refused, if it did. -/
def deviceCode : Error → Option Int32
  | .deviceError code _ => some code
  | .configurationRejected code _ => some code
  | _ => none

end Error

end RoverLink
