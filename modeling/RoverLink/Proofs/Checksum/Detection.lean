import RoverLink.Checksum.Crc8

/-!
# What the check detects

One step of the register can be undone, so two registers that differ stay
different over the same octets.  Two sequences that differ in one octet
therefore have different checks.
-/

namespace RoverLink.Checksum

/-- The register before one bit: the polynomial made it odd if a one was shifted out. -/
def bitStepBack (register : UInt8) : UInt8 :=
  if register &&& 0x01 = 0 then register >>> 1 else (register ^^^ 0x07) >>> 1 ||| 0x80

theorem bitStepBack_bitStep (register : UInt8) :
    bitStepBack (bitStep register) = register := by
  have all : ∀ code < 256, bitStepBack (bitStep (.ofNat code)) = .ofNat code := by
    decide +kernel
  simpa using all register.toNat register.toNat_lt

theorem repeat_bitStep_injective
    (count : Nat)
    {left right : UInt8}
    (same : Nat.repeat bitStep count left = Nat.repeat bitStep count right) :
    left = right := by
  induction count with
  | zero => exact same
  | succ count induction =>
    have undone := congrArg bitStepBack same
    simp only [Nat.repeat, bitStepBack_bitStep] at undone
    exact induction undone

theorem octetStep_injective_register
    {left right octet : UInt8}
    (same : octetStep left octet = octetStep right octet) :
    left = right :=
  UInt8.xor_left_inj _ |>.mp (repeat_bitStep_injective 8 same)

theorem octetStep_injective_octet
    {register left right : UInt8}
    (same : octetStep register left = octetStep register right) :
    left = right :=
  UInt8.xor_right_inj _ |>.mp (repeat_bitStep_injective 8 same)

/-- Registers that differ stay different. -/
theorem crc8From_injective
    (octets : List UInt8)
    {left right : UInt8}
    (same : crc8From left octets = crc8From right octets) :
    left = right := by
  induction octets generalizing left right with
  | nil => exact same
  | cons octet octets induction => exact octetStep_injective_register (induction same)

/-- A single octet that is changed changes the check. -/
theorem eq_of_crc8_eq
    {before after : List UInt8}
    {left right : UInt8}
    (same : crc8 (before ++ left :: after) = crc8 (before ++ right :: after)) :
    left = right := by
  simp only [crc8, crc8From_append, crc8From_cons] at same
  exact octetStep_injective_octet (crc8From_injective after same)

end RoverLink.Checksum
