import RoverLink.Decimal.Digits
import RoverLink.Error
import RoverLink.Text.Quoted

/-!
# Commands

A command is one character, the opcode, and a list of 64-bit integers.  Its body is the opcode and
then the arguments in brackets with commas between them.  The devices accept letters, digits and the
question mark as opcodes and bodies of at most 58 characters, so every value of the type `Command`
keeps both rules.
-/

namespace RoverLink

def isOpcode (character : Char) : Bool :=
  character.isAlphanum || character == '?'

/-- Why an opcode and arguments make no command. -/
inductive CommandError where
  | invalidOpcode (opcode : Char)
  | tooLong (length : Nat)
  deriving DecidableEq, Repr

namespace Command

/-- The most characters that a body may have. -/
def maximumLength : Nat :=
  58

def argumentText (argument : Int64) : List Char :=
  Decimal.signed argument.toInt

/-- The text of arguments with commas between them. -/
def argumentsText (arguments : List Int64) : List Char :=
  [','].intercalate (arguments.map argumentText)

def bodyOf (opcode : Char) (arguments : List Int64) : List Char :=
  opcode :: '[' :: argumentsText arguments ++ [']']

end Command

namespace CommandError

/-- What is wrong with an opcode or with its arguments. -/
def message : CommandError → String
  | .invalidOpcode opcode => "invalid opcode '" ++ String.ofList (Text.visible opcode) ++ "'"
  | .tooLong length =>
    "command is " ++ toString length ++ " characters long, the maximum is " ++
      toString Command.maximumLength

/-- The error of an operation that was asked to use them. -/
def toError (error : CommandError) : Error :=
  .invalidCommand error.message

end CommandError

/-- A command that a device accepts as a request. -/
structure Command where
  opcode : Char
  arguments : List Int64
  opcode_valid : isOpcode opcode = true
  length_le : (Command.bodyOf opcode arguments).length ≤ Command.maximumLength
  deriving DecidableEq

namespace Command

def body (command : Command) : List Char :=
  bodyOf command.opcode command.arguments

/-- The command of an opcode and arguments; a wrong opcode is reported first. -/
def make (opcode : Char) (arguments : List Int64) : Except CommandError Command :=
  if opcode_valid : isOpcode opcode = true then
    if length_le : (bodyOf opcode arguments).length ≤ maximumLength then
      .ok ⟨opcode, arguments, opcode_valid, length_le⟩
    else
      .error (.tooLong (bodyOf opcode arguments).length)
  else
    .error (.invalidOpcode opcode)

/-- The command of an opcode without arguments. -/
def query (opcode : Char) (opcode_valid : isOpcode opcode = true) : Command :=
  ⟨opcode, [], opcode_valid, by simp [bodyOf, argumentsText, maximumLength]⟩

/-- The argument that stands for a truth value. -/
def flag (value : Bool) : Int64 :=
  if value then 1 else 0

/-- The command of an opcode that switches something on or off. -/
def switch (opcode : Char) (opcode_valid : isOpcode opcode = true) (value : Bool) : Command :=
  ⟨opcode, [flag value], opcode_valid, by
    cases value <;>
      simp [bodyOf, argumentsText, argumentText, flag, maximumLength, Decimal.signed] <;> decide⟩

theorem make_eq_ok (command : Command) :
    make command.opcode command.arguments = .ok command := by
  simp [make, command.opcode_valid, command.length_le]

theorem of_make_eq_ok
    {opcode : Char}
    {arguments : List Int64}
    {command : Command}
    (made : make opcode arguments = .ok command) :
    command.opcode = opcode ∧ command.arguments = arguments := by
  rw [make] at made
  split at made
  · split at made
    · cases made
      exact ⟨rfl, rfl⟩
    · simp at made
  · simp at made

/-- An error that is told otherwise still makes no command. -/
theorem of_mapError_make_eq_ok
    {Fault : Type}
    {tell : CommandError → Fault}
    {opcode : Char}
    {arguments : List Int64}
    {command : Command}
    (made : (make opcode arguments).mapError tell = .ok command) :
    command.opcode = opcode ∧ command.arguments = arguments := by
  cases result : make opcode arguments with
  | error error =>
    rw [result] at made
    cases made
  | ok other =>
    rw [result] at made
    cases made
    exact of_make_eq_ok result

end Command

end RoverLink
