/-!
# What a status means

The sign of a status decides whether the command was carried out, should be sent again, or was
refused.
-/

namespace RoverLink

/-- What a status means. -/
inductive StatusClass where
  | success
  /-- The command should be sent again. -/
  | transient
  | fatal (code : Int32)
  deriving DecidableEq, Repr

namespace StatusClass

def ofStatus (status : Int32) : StatusClass :=
  if status = 0 then .success
  else if status < 0 then .transient
  else .fatal status

/-- Whether the same command should be sent again. -/
def isRetryable : StatusClass → Bool
  | .transient => true
  | _ => false

def shown : StatusClass → String
  | .success => "success"
  | .transient => "transient"
  | .fatal code => "fatal(" ++ toString code.toInt ++ ")"

end StatusClass

end RoverLink
