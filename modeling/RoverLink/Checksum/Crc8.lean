/-!
# The cyclic redundancy check CRC-8

The check with the polynomial `x^8 + x^2 + x + 1`, a register that starts at zero, the most
significant bit first, and no change at the end.  Each octet is added to the register, which then
advances by eight bits.
-/

namespace RoverLink.Checksum

/-- The register after one bit: a shift, and the polynomial if a one was shifted out. -/
def bitStep (register : UInt8) : UInt8 :=
  if register &&& 0x80 = 0 then register <<< 1 else (register <<< 1) ^^^ 0x07

def octetStep (register octet : UInt8) : UInt8 :=
  Nat.repeat bitStep 8 (register ^^^ octet)

def crc8From (register : UInt8) (octets : List UInt8) : UInt8 :=
  octets.foldl octetStep register

def crc8 (octets : List UInt8) : UInt8 :=
  crc8From 0 octets

@[simp]
theorem crc8From_nil (register : UInt8) : crc8From register [] = register :=
  rfl

@[simp]
theorem crc8From_cons (register octet : UInt8) (octets : List UInt8) :
    crc8From register (octet :: octets) = crc8From (octetStep register octet) octets :=
  rfl

@[simp]
theorem crc8From_append (register : UInt8) (left right : List UInt8) :
    crc8From register (left ++ right) = crc8From (crc8From register left) right := by
  simp [crc8From]

end RoverLink.Checksum
