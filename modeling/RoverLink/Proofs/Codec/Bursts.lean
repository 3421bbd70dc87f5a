import RoverLink.Proofs.Checksum.Bursts
import RoverLink.Proofs.Codec.Offsets

/-!
# Bursts in lines

A line that ends with the digits of its check is not taken for right any more
when the text before these digits is damaged within eight bits in a row
(`detects_bursts`).
-/

namespace RoverLink

namespace Codec

/-- Whether a line is another one that was damaged by a burst before its last two characters. -/
structure HasBurst (line damaged : List Char) : Prop where
  octetCount : Text.octetCount line = Text.octetCount damaged
  check : line.drop (line.length - 2) = damaged.drop (damaged.length - 2)
  burst : Checksum.IsBurst
    (Checksum.bits (Text.Utf8.encode line.dropLast.dropLast))
    (Checksum.bits (Text.Utf8.encode damaged.dropLast.dropLast))

/-- The text before the check has as many octets as before. -/
theorem HasBurst.length_eq
    {line damaged : List Char}
    (burst : HasBurst line damaged) :
    (Text.Utf8.encode line.dropLast.dropLast).length =
      (Text.Utf8.encode damaged.dropLast.dropLast).length := by
  have parts : ∀ text : List Char, Text.octetCount text =
      (Text.Utf8.encode text.dropLast.dropLast).length +
        Text.octetCount (text.drop (text.length - 2)) := by
    intro text
    have front : text.dropLast.dropLast = text.take (text.length - 2) := by
      rw [List.dropLast_eq_take, List.length_dropLast, Nat.sub_sub, List.dropLast_eq_take,
        List.take_take, Nat.min_eq_left (by omega)]
    rw [← Text.octetCount, ← Text.octetCount_append, front, List.take_append_drop]
  have octets := burst.octetCount
  rw [parts line, parts damaged, burst.check] at octets
  exact Nat.add_right_cancel octets

/-- The last two characters of a trimmed line tell its check. -/
theorem exists_hexOctet?_of_read
    {line : List Char}
    {reply : Reply}
    {crc : UInt8}
    (decoded : Reply.read line = .ok reply)
    (carries : reply.crc = some crc)
    (trimmed : Text.trimEnd line = line) :
    ∃ high low, line.drop (line.length - 2) = [high, low] ∧
      Reply.hexOctet? high low = some crc := by
  cases checkDigits_of_read decoded carries with
  | @intro _ _ tail before first second high low _ _ metadata value ending _ _ =>
    refine ⟨high, low, ?_, value⟩
    rw [trimmed, metadata] at ending
    rw [ending, show before ++ [':', first, second, high, low] =
      (before ++ [':', first, second]) ++ [high, low] by simp]
    exact List.drop_left' (by simp)

/-- A burst in the text before the check of a line makes the check wrong. -/
theorem detects_bursts
    {codec : Codec}
    (checking : codec.mode = .crc8)
    {line damaged : List Char}
    {reply other : Reply}
    (decoded : Reply.read line = .ok reply)
    (decodedDamaged : Reply.read damaged = .ok other)
    (carries : reply.crc.isSome = true)
    (carriesDamaged : other.crc.isSome = true)
    (trimmed : Text.trimEnd line = line)
    (trimmedDamaged : Text.trimEnd damaged = damaged)
    (burst : HasBurst line damaged)
    (verified : codec.verify? line reply = some true) :
    codec.verify? damaged other = some false := by
  rcases Option.isSome_iff_exists.mp carries with ⟨crc, carries⟩
  rcases Option.isSome_iff_exists.mp carriesDamaged with ⟨otherCrc, carriesDamaged⟩
  -- Both replies carry the same check, as it is told by the same two characters.
  have same : otherCrc = crc := by
    rcases exists_hexOctet?_of_read decoded carries trimmed with ⟨high, low, digits, value⟩
    rcases exists_hexOctet?_of_read decodedDamaged carriesDamaged trimmedDamaged with
      ⟨otherHigh, otherLow, otherDigits, otherValue⟩
    rw [← burst.check, digits] at otherDigits
    cases otherDigits
    exact Option.some.inj (otherValue.symm.trans value)
  rw [verify?_of_crc checking decoded carries, trimmed, Option.some.injEq, beq_iff_eq] at verified
  rw [verify?_of_crc checking decodedDamaged carriesDamaged, trimmedDamaged, same,
    Option.some.injEq, beq_eq_false_iff_ne, ← verified]
  exact (Checksum.crc8_ne_of_isBurst burst.length_eq burst.burst).symm

/-- A line whose message is damaged across the border of two octets. -/
theorem hasBurst_across : HasBurst "#[0,\"ab\"]:2b41".toList "#[0,\"cB\"]:2b41".toList where
  octetCount := by decide +kernel
  check := by decide +kernel
  burst := ⟨by decide +kernel, 46, by decide +kernel⟩

/-- The damaged message is read as well as the right one, but its check is wrong. -/
theorem detects_bursts_across :
    (⟨.crc8, 0x2b⟩ : Codec).verify? "#[0,\"ab\"]:2b41".toList
        ⟨0, [.text "ab"], some 0x2b, some 0x41⟩ = some true ∧
      (⟨.crc8, 0x2b⟩ : Codec).verify? "#[0,\"cB\"]:2b41".toList
        ⟨0, [.text "cB"], some 0x2b, some 0x41⟩ = some false := by
  have verified : (⟨.crc8, 0x2b⟩ : Codec).verify? "#[0,\"ab\"]:2b41".toList
      ⟨0, [.text "ab"], some 0x2b, some 0x41⟩ = some true := by
    decide +kernel
  exact ⟨verified, detects_bursts rfl (by decide +kernel) (by decide +kernel) rfl rfl
    (by decide +kernel) (by decide +kernel) hasBurst_across verified⟩

end Codec

end RoverLink
