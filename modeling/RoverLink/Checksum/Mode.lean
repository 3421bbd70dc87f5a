/-!
# Checksum modes

How the four characters at the end of a request are filled in.
-/

namespace RoverLink

/-- How the suffix of a request is filled in. -/
inductive ChecksumMode where
  /-- Four times the letter `x`. -/
  | placeholder
  /-- The number of the request and the check of all that stands before it. -/
  | crc8
  deriving DecidableEq, Repr, Inhabited

namespace ChecksumMode

def name : ChecksumMode → String
  | .placeholder => "placeholder"
  | .crc8 => "crc8"

def named : List (String × ChecksumMode) :=
  [("placeholder", .placeholder), ("crc8", .crc8)]

end ChecksumMode

end RoverLink
