import RoverLink.Codec
import RoverLink.Proofs.Reply.Layout
import RoverLink.Proofs.Text.Utf8

/-!
# The check of a line

A reply carries a check only if its line ends, apart from blanks, with the two
digits of the check.  The check covers the octets of all that stands before
them, so taking them away never cuts a character apart
(`exists_verify?_eq_some`).
-/

namespace RoverLink

namespace Codec

open Reply (IsHex readMetadata)

/-! ### The check of a line -/

theorem withoutCheck?_append
    (octets : List UInt8)
    {high low : UInt8}
    (starts : Text.Utf8.isContinuation high = false) :
    withoutCheck? (octets ++ [high, low]) = some octets := by
  simp [withoutCheck?, starts]

/-- The digits of the check stop a cut at the end. -/
theorem trimEnd_append_digits
    (head : List Char)
    (high : Char)
    {low : Char}
    (lowHex : IsHex low)
    {back : List Char}
    (blank : ∀ character ∈ back, Text.isBlank character = true) :
    Text.trimEnd (head ++ high :: low :: back) = head ++ [high, low] := by
  have kept := Text.dropEndWhile_append_cons_of_not Text.isBlank (head ++ [high]) back
    lowHex.isBlank_eq_false
  have gone := Text.dropEndWhile_append_of_all Text.isBlank [] blank
  rw [List.nil_append] at gone
  rw [gone] at kept
  simpa [Text.trimEnd] using kept

/-- The check of a line with metadata covers all but the last two of its characters. -/
theorem verify?_of_metadata
    {codec : Codec}
    (checking : codec.mode = .crc8)
    {reply : Reply}
    {crc : UInt8}
    (carried : reply.crc = some crc)
    (head : List Char)
    {high low : Char}
    (highHex : IsHex high)
    (lowHex : IsHex low)
    {back : List Char}
    (blank : ∀ character ∈ back, Text.isBlank character = true) :
    codec.verify? (head ++ high :: low :: back) reply =
      some (Checksum.crc8 (Text.Utf8.encode head) == crc) := by
  have octets : Text.Utf8.encode (head ++ [high, low]) =
      Text.Utf8.encode head ++ [high.val.toUInt8, low.val.toUInt8] := by
    simp [Text.Utf8.utf8EncodeChar_of_lt highHex.toNat_lt,
      Text.Utf8.utf8EncodeChar_of_lt lowHex.toNat_lt]
  simp only [verify?, checking, carried, trimEnd_append_digits head high lowHex blank, octets]
  rw [if_neg (by simp), withoutCheck?_append _
    (Text.Utf8.isContinuation_toUInt8 highHex.toNat_lt)]
  rfl

/-- A tail with metadata ends, apart from blanks, with the two digits of the check. -/
theorem verify?_append_tail
    {codec : Codec}
    (checking : codec.mode = .crc8)
    {tail : List Char}
    {crc : UInt8}
    (carried : (readMetadata tail).2 = some crc) :
    ∃ front, ∀ (head : List Char) (reply : Reply), reply.crc = some crc →
      codec.verify? (head ++ tail) reply =
        some (Checksum.crc8 (Text.Utf8.encode (head ++ front)) == crc) := by
  rcases Reply.readMetadata_cases tail with
    none | ⟨front, high, low, back, _, _, split, _, highHex, lowHex, blank, _⟩
  · simp [none] at carried
  · refine ⟨front, ?_⟩
    intro head reply carries
    rw [split, ← List.append_assoc]
    exact verify?_of_metadata checking carries _ highHex lowHex blank

/-- The check of a reply covers the trimmed line without its last two characters. -/
theorem verify?_of_crc
    {codec : Codec}
    (checking : codec.mode = .crc8)
    {line : List Char}
    {reply : Reply}
    {crc : UInt8}
    (decoded : Reply.read line = .ok reply)
    (carries : reply.crc = some crc) :
    codec.verify? line reply =
      some (Checksum.crc8 (Text.Utf8.encode (Text.trimEnd line).dropLast.dropLast) == crc) := by
  rcases Reply.exists_layout_of_read_eq_ok decoded with ⟨layout, line⟩
  rw [line] at decoded ⊢
  have metadata := Reply.metadata_of_read_text decoded
  rcases Reply.readMetadata_cases layout.tail with
    none | ⟨front, high, low, back, _, _, split, _, highHex, lowHex, blank, _⟩
  · simp [none, carries] at metadata
  · have parts : layout.text =
        '#' :: (layout.lead ++ '[' :: (layout.inner ++ ']' :: front)) ++ high :: low :: back := by
      simp [Reply.Layout.text, split]
    rw [parts, verify?_of_metadata checking carries _ highHex lowHex blank,
      trimEnd_append_digits _ _ lowHex blank, List.dropLast_append_cons]
    simp only [List.dropLast, List.dropLast_concat]

/-- Whether a line has the right check can always be told. -/
theorem exists_verify?_eq_some
    (codec : Codec)
    {line : List Char}
    {reply : Reply}
    (decoded : Reply.read line = .ok reply) :
    ∃ verdict, codec.verify? line reply = some verdict := by
  cases checking : codec.mode with
  | placeholder => exact ⟨true, by simp [verify?, checking]⟩
  | crc8 =>
    cases carries : reply.crc with
    | none => exact ⟨true, by simp [verify?, checking, carries]⟩
    | some crc => exact ⟨_, verify?_of_crc checking decoded carries⟩

end Codec

end RoverLink
