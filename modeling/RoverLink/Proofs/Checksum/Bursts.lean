import RoverLink.Proofs.Checksum.Detection

/-!
# Bursts

The register can take the bits of its octets one by one, the most significant
first (`crc8From_eq_foldl`).  Eight bits in a row act on it as one octet does,
also where they do not begin with an octet.  So the check detects all damage
within eight bits in a row (`crc8_ne_of_isBurst`).
-/

namespace RoverLink.Checksum

/-! ### Bits -/

/-- The bits of an octet, the most significant first. -/
def octetBits (octet : UInt8) : List Bool :=
  List.ofFn fun place : Fin 8 => octet.toBitVec.getMsbD place

@[simp]
theorem length_octetBits (octet : UInt8) : (octetBits octet).length = 8 :=
  List.length_ofFn

/-- Eight bits are the bits of an octet. -/
theorem exists_octetBits_eq
    {window : List Bool}
    (eight : window.length = 8) :
    ∃ octet, octetBits octet = window := by
  refine ⟨⟨(BitVec.ofBoolListBE window).cast eight⟩, ?_⟩
  apply List.ext_getElem
  · rw [length_octetBits, eight]
  · intro place _ inside
    simp only [octetBits, List.getElem_ofFn, BitVec.getMsbD_cast, BitVec.getMsbD_ofBoolListBE,
      List.getD_eq_getElem?_getD, List.getElem?_eq_getElem inside, Option.getD_some]

/-- The bits of octets in their order. -/
def bits (octets : List UInt8) : List Bool :=
  octets.flatMap octetBits

@[simp]
theorem bits_nil : bits [] = [] :=
  rfl

@[simp]
theorem bits_cons (octet : UInt8) (octets : List UInt8) :
    bits (octet :: octets) = octetBits octet ++ bits octets :=
  rfl

theorem length_bits (octets : List UInt8) : (bits octets).length = 8 * octets.length := by
  induction octets with
  | nil => rfl
  | cons octet octets induction =>
    rw [bits_cons, List.length_append, induction, length_octetBits, List.length_cons]
    omega

/-! ### The register bit by bit -/

/-- A step shifts the register, and the bit that falls out decides what is added. -/
theorem bitStep_eq (register : UInt8) :
    bitStep register = (register <<< 1) ^^^ (if register.toBitVec.msb then 0x07 else 0) := by
  have all : ∀ code < 256, bitStep (UInt8.ofNat code) =
      (UInt8.ofNat code <<< 1) ^^^ (if (UInt8.ofNat code).toBitVec.msb then 0x07 else 0) := by
    decide +kernel
  simpa using all register.toNat register.toNat_lt

/-- A step of a sum is the sum of the steps. -/
theorem bitStep_xor (left right : UInt8) :
    bitStep (left ^^^ right) = bitStep left ^^^ bitStep right := by
  have shifted : (left ^^^ right) <<< 1 = (left <<< 1) ^^^ (right <<< 1) := by
    apply UInt8.toBitVec_inj.mp
    simp [BitVec.shiftLeft_xor_distrib]
  have added : (if (left ^^^ right).toBitVec.msb then (0x07 : UInt8) else 0) =
      (if left.toBitVec.msb then 0x07 else 0) ^^^ (if right.toBitVec.msb then 0x07 else 0) := by
    rw [UInt8.toBitVec_xor, BitVec.msb_xor]
    cases left.toBitVec.msb <;> cases right.toBitVec.msb <;> rfl
  simp only [bitStep_eq, shifted, added]
  ac_rfl

theorem repeat_bitStep_succ (count : Nat) (register : UInt8) :
    Nat.repeat bitStep (count + 1) register = Nat.repeat bitStep count (bitStep register) := by
  induction count with
  | zero => rfl
  | succ count induction => exact congrArg bitStep induction

theorem repeat_bitStep_xor (count : Nat) (left right : UInt8) :
    Nat.repeat bitStep count (left ^^^ right) =
      Nat.repeat bitStep count left ^^^ Nat.repeat bitStep count right := by
  induction count with
  | zero => rfl
  | succ count induction => simp only [Nat.repeat, induction, bitStep_xor]

/-- The register after one bit of what is checked. -/
def feed (register : UInt8) (bit : Bool) : UInt8 :=
  bitStep (register ^^^ if bit then 0x80 else 0)

theorem foldl_feed_xor (message : List Bool) (left right : UInt8) :
    message.foldl feed (left ^^^ right) =
      message.foldl feed left ^^^ Nat.repeat bitStep message.length right := by
  induction message generalizing left right with
  | nil => rfl
  | cons bit message induction =>
    have first : feed (left ^^^ right) bit = feed left bit ^^^ bitStep right := by
      rw [feed, feed, ← bitStep_xor]
      congr 1
      ac_rfl
    rw [List.foldl_cons, first, induction, List.foldl_cons, List.length_cons,
      repeat_bitStep_succ]

/-- An octet goes into the register bit by bit. -/
theorem octetStep_eq_foldl (register octet : UInt8) :
    octetStep register octet = (octetBits octet).foldl feed register := by
  have all : ∀ code < 256,
      (octetBits (UInt8.ofNat code)).foldl feed 0 = Nat.repeat bitStep 8 (UInt8.ofNat code) := by
    decide +kernel
  have alone : (octetBits octet).foldl feed 0 = Nat.repeat bitStep 8 octet := by
    simpa using all octet.toNat octet.toNat_lt
  have parts := foldl_feed_xor (octetBits octet) 0 register
  rw [UInt8.zero_xor, alone, length_octetBits] at parts
  rw [octetStep, repeat_bitStep_xor, parts, UInt8.xor_comm]

theorem crc8From_eq_foldl (register : UInt8) (octets : List UInt8) :
    crc8From register octets = (bits octets).foldl feed register := by
  induction octets generalizing register with
  | nil => rfl
  | cons octet octets induction =>
    rw [crc8From_cons, induction, bits_cons, List.foldl_append, octetStep_eq_foldl]

/-- Registers that differ stay different over the same bits. -/
theorem foldl_feed_injective
    (message : List Bool)
    {left right : UInt8}
    (same : message.foldl feed left = message.foldl feed right) :
    left = right := by
  induction message generalizing left right with
  | nil => exact same
  | cons bit message induction =>
    exact UInt8.xor_left_inj _ |>.mp (repeat_bitStep_injective 1 (induction same))

/-- Eight bits that differ take a register to different ones. -/
theorem eq_of_foldl_feed_eq
    {register : UInt8}
    {left right : List Bool}
    (leftEight : left.length = 8)
    (rightEight : right.length = 8)
    (same : left.foldl feed register = right.foldl feed register) :
    left = right := by
  rcases exists_octetBits_eq leftEight with ⟨leftOctet, rfl⟩
  rcases exists_octetBits_eq rightEight with ⟨rightOctet, rfl⟩
  rw [← octetStep_eq_foldl, ← octetStep_eq_foldl] at same
  rw [octetStep_injective_octet same]

/-! ### Damage within eight bits -/

/-- Whether bits are damaged, but only within eight of them in a row. -/
structure IsBurst (left right : List Bool) : Prop where
  differs : left ≠ right
  within : ∃ start, ∀ place < left.length, left[place]? ≠ right[place]? →
    start ≤ place ∧ place < start + 8

/-- A burst has the same bits before it and behind it, and there is room for all eight bits. -/
theorem IsBurst.exists_windows
    {left right : List Bool}
    (burst : IsBurst left right)
    (length : left.length = right.length)
    (room : 8 ≤ left.length) :
    ∃ front leftWindow rightWindow back,
      left = front ++ leftWindow ++ back ∧ right = front ++ rightWindow ++ back ∧
        leftWindow.length = 8 ∧ rightWindow.length = 8 := by
  rcases burst.within with ⟨start, within⟩
  -- Damage that begins within the last eight bits is in the window of these bits.
  let begin := min start (left.length - 8)
  have fronts : left.take begin = right.take begin := by
    apply List.ext_getElem?
    intro place
    grind
  have backs : left.drop (begin + 8) = right.drop (begin + 8) := by
    apply List.ext_getElem?
    intro place
    grind
  have parts : ∀ message : List Bool, message =
      message.take begin ++ (message.drop begin).take 8 ++ message.drop (begin + 8) := by
    intro message
    rw [List.append_assoc, ← List.drop_drop, List.take_append_drop, List.take_append_drop]
  refine ⟨left.take begin, (left.drop begin).take 8, (right.drop begin).take 8,
    left.drop (begin + 8), parts left, ?_, ?_, ?_⟩
  · rw [fronts, backs]
    exact parts right
  · simp only [List.length_take, List.length_drop]
    omega
  · simp only [List.length_take, List.length_drop, ← length]
    omega

/-- A burst changes the check. -/
theorem crc8_ne_of_isBurst
    {left right : List UInt8}
    (length : left.length = right.length)
    (burst : IsBurst (bits left) (bits right)) :
    crc8 left ≠ crc8 right := by
  intro same
  have bitLength : (bits left).length = (bits right).length := by
    rw [length_bits, length_bits, length]
  have room : 8 ≤ (bits left).length := by
    have some : left.length ≠ 0 := by
      intro none
      apply burst.differs
      rw [List.length_eq_zero_iff.mp none, List.length_eq_zero_iff.mp (length.symm.trans none)]
    rw [length_bits]
    omega
  rcases burst.exists_windows bitLength room with
    ⟨front, leftWindow, rightWindow, back, ofLeft, ofRight, leftEight, rightEight⟩
  rw [crc8, crc8, crc8From_eq_foldl, crc8From_eq_foldl, ofLeft, ofRight] at same
  simp only [List.foldl_append] at same
  have windows := eq_of_foldl_feed_eq leftEight rightEight (foldl_feed_injective back same)
  exact burst.differs (by rw [ofLeft, ofRight, windows])

end RoverLink.Checksum
