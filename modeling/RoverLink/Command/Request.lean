import RoverLink.Command
import RoverLink.Text.Blank
import RoverLink.Text.Split
import RoverLink.Word

/-!
# Requests

A request is the frame in which a command travels: the start marker `#`, the body of the command, a
colon, a suffix, and a carriage return.  `Request.withSuffix` writes a request and `Request.read`
finds its command again, whatever the suffix is; it also accepts blanks around arguments, signs and
leading zeros, so a command has one written form and several that can be read.
-/

namespace RoverLink

/-- What is wrong with a text that is no request. -/
inductive RequestFault where
  | missingStartMarker
  | missingSuffix
  | missingOpcode
  | missingBrackets
  | invalidArgument
  deriving DecidableEq, Repr

namespace RequestFault

def message : RequestFault → String
  | .missingStartMarker => "missing start marker"
  | .missingSuffix => "missing suffix"
  | .missingOpcode => "missing opcode"
  | .missingBrackets => "missing argument brackets"
  | .invalidArgument => "invalid argument"

end RequestFault

/-- Why a text gives no command: it is no request, or its opcode and arguments make no command. -/
inductive RequestError where
  | malformed (fault : RequestFault)
  | refused (error : CommandError)
  deriving DecidableEq, Repr

namespace RequestError

/-- The error of an operation that was given the text. -/
def toError (text : List Char) : RequestError → Error
  | .malformed fault => .malformedReply (String.ofList text) fault.message
  | .refused error => error.toError

end RequestError

namespace Request

/-- The suffix of a request that carries no check. -/
def placeholder : List Char :=
  ['x', 'x', 'x', 'x']

def head (command : Command) : List Char :=
  '#' :: command.body ++ [':']

def withSuffix (command : Command) (suffix : List Char) : List Char :=
  head command ++ suffix ++ ['\r']

def plain (command : Command) : List Char :=
  withSuffix command placeholder

/-- The argument that a piece of the list stands for: an integer of 64 bits between blanks. -/
def argument? (piece : List Char) : Option Int64 :=
  (Decimal.integer? (Text.trim piece)).bind Word.int64?

def arguments? (inner : List Char) : Option (List Int64) :=
  if inner = [] then some [] else (Text.splitEvery ',' inner).mapM argument?

def betweenBrackets? : List Char → Option (List Char)
  | '[' :: rest => if rest.getLast? = some ']' then some rest.dropLast else none
  | _ => none

def readBody : List Char → Except RequestError Command
  | [] => .error (.malformed .missingOpcode)
  | opcode :: list =>
    match betweenBrackets? list with
    | none => .error (.malformed .missingBrackets)
    | some inner =>
      match arguments? inner with
      | none => .error (.malformed .invalidArgument)
      | some arguments => (Command.make opcode arguments).mapError .refused

/-- The command of a request; carriage returns at its end do not count. -/
def read (text : List Char) : Except RequestError Command :=
  match Text.dropEndWhile (· == '\r') text with
  | '#' :: rest =>
    match Text.splitLast? ':' rest with
    | some (body, _) => readBody body
    | none => .error (.malformed .missingSuffix)
  | _ => .error (.malformed .missingStartMarker)

end Request

end RoverLink
