import RoverLink.Decimal.Binary64

/-!
# Physical units and device units

A rover is described in metres, metres per second and gains; its motor board counts in whole
numbers.  Every operation on binary64 numbers rounds to nearest, in the order in which it is written
here.
-/

namespace RoverLink.Units

open Decimal

/-- The ratio of the circumference of a circle to its diameter, to the nearest number. -/
def pi : Binary64 :=
  ⟨0x400921fb54442d18⟩

/-- The factor between revolutions per second and their device unit. -/
def revolutionScale : Binary64 :=
  Binary64.ofInt 100

/-- The factor between a gain and its device unit. -/
def gainScale : Binary64 :=
  Binary64.ofInt 1000

/-- A number rounded half away from zero and held within 32 bits. -/
def toInt32 (number : Binary64) : Int32 :=
  Int32.ofInt (number.roundWithin (-0x80000000) 0x7fffffff)

/-- A number rounded half away from zero and held within 64 bits. -/
def toInt64 (number : Binary64) : Int64 :=
  Int64.ofInt (number.roundWithin (-0x8000000000000000) 0x7fffffffffffffff)

def wheelCircumference (wheelDiameter : Binary64) : Binary64 :=
  pi * wheelDiameter

/-- The revolutions per second of a wheel at a linear speed. -/
def maxRevolutionsPerSecond (maxLinearSpeed wheelDiameter : Binary64) : Binary64 :=
  maxLinearSpeed / wheelCircumference wheelDiameter

def rpsToDevice (revolutions : Binary64) : Int32 :=
  toInt32 (revolutionScale * revolutions)

def gainToDevice (gain : Binary64) : Int32 :=
  toInt32 (gainScale * gain)

def gainFromDevice (value : Int32) : Binary64 :=
  Binary64.ofInt value.toInt / gainScale

/-- The encoder steps per second at a rate of revolutions. -/
def encoderStepsPerSecond (revolutions encoderSteps : Binary64) : Binary64 :=
  revolutions * encoderSteps

def isNotPositive (number : Binary64) : Bool :=
  number.le (Binary64.zero false)

/-- The speed of a wheel as a fraction of the greatest speed; zero if a divisor is not positive. -/
def relativeSpeed (deltaSteps milliseconds encoderSteps maxRevolutions : Binary64) : Binary64 :=
  if isNotPositive milliseconds || isNotPositive encoderSteps || isNotPositive maxRevolutions then
    Binary64.zero false
  else
    Binary64.ofInt 1000 * deltaSteps / milliseconds / encoderSteps / maxRevolutions

/--
The distance in metres that a wheel travelled; zero if the steps per revolution are not positive.
-/
def wheelDistance (deltaSteps wheelDiameter encoderSteps : Binary64) : Binary64 :=
  if isNotPositive encoderSteps then
    Binary64.zero false
  else
    wheelCircumference wheelDiameter * deltaSteps / encoderSteps

end RoverLink.Units
