import RoverLink.Proofs.Codec.Check
import RoverLink.Proofs.Reply.Offsets

/-!
# Where the check of a line is cut off

A line is trimmed in one way to be read and in another way to be checked.  The
check cuts off the last two octets of the line, and finds there the two digits
from which it was read, so that it cuts between two characters
(`cuts_in_place`).
-/

namespace RoverLink

namespace Codec

/-- The octets without the last two are those of a slice, and are missing if the slice is. -/
theorem withoutCheck?_encode
    {text : List Char}
    (two : 2 ≤ Text.octetCount text) :
    withoutCheck? (Text.Utf8.encode text) =
      (Text.slice? 0 (Text.octetCount text - 2) text).map Text.Utf8.encode := by
  have cut := Text.isSome_cutAt?_iff (Text.octetCount text - 2) text
  have inside : Text.octetCount text - 2 < (Text.Utf8.encode text).length := by
    rw [← Text.octetCount]
    omega
  rw [List.getElem?_eq_getElem inside] at cut
  rw [withoutCheck?, ← Text.octetCount, List.drop_eq_getElem_cons inside, Text.slice?,
    if_pos (Nat.zero_le _)]
  cases found : Text.cutAt? (Text.octetCount text - 2) text with
  | some parts =>
    rcases parts with ⟨before, after⟩
    rcases Text.eq_append_of_cutAt? found with ⟨split, count⟩
    rw [found] at cut
    have starts := (cut.mp rfl).2 _ rfl
    have taken : (Text.Utf8.encode text).take (Text.octetCount text - 2) =
        Text.Utf8.encode before := by
      rw [count, split, Text.Utf8.encode_append, Text.octetCount, List.take_left]
    simp [starts, taken]
  | none =>
    rw [found] at cut
    have continues : Text.Utf8.isContinuation
        (Text.Utf8.encode text)[Text.octetCount text - 2] = true := by
      refine Decidable.byContradiction fun starts => ?_
      refine absurd (cut.mpr ⟨Nat.sub_le _ _, ?_⟩) Bool.false_ne_true
      rintro octet same
      cases same
      exact Bool.eq_false_iff.mpr starts
    simp [continues]

/-- The check of a reply is made on the slice of the trimmed line that leaves out two octets. -/
theorem verify?_eq_slice
    {codec : Codec}
    (checking : codec.mode = .crc8)
    {reply : Reply}
    {crc : UInt8}
    (carried : reply.crc = some crc)
    {line : List Char}
    (two : 2 ≤ Text.octetCount (Text.trimEnd line)) :
    codec.verify? line reply =
      (Text.slice? 0 (Text.octetCount (Text.trimEnd line) - 2) (Text.trimEnd line)).map
        fun covered => Checksum.crc8 (Text.Utf8.encode covered) == crc := by
  simp only [verify?, checking, carried]
  rw [← Text.octetCount, if_neg (Nat.not_lt.mpr two), withoutCheck?_encode two, Option.map_map]
  rfl

/-- The digits of a check, as a line is cut to read them and as it is cut to check it. -/
inductive CheckDigits (line : List Char) (crc : UInt8) : Prop where
  | intro {opening closing : Nat} {tail before : List Char} {first second high low : Char}
      -- The digits that are read end the text behind the list.
      (brackets : Reply.bracketsAt? (Text.dropEndWhile Text.isLineEnd line) =
        some (.ok (opening, closing)))
      (behind : Text.sliceFrom? (closing + 1) (Text.dropEndWhile Text.isLineEnd line) = some tail)
      (metadata : Text.trim tail = [':', first, second, high, low])
      (value : Reply.hexOctet? high low = some crc)
      -- The same text ends the line that is checked, and its last two digits are cut off.
      (trimmed : Text.trimEnd line = before ++ Text.trim tail)
      (covered : Text.slice? 0 (Text.octetCount (Text.trimEnd line) - 2) (Text.trimEnd line) =
        some (before ++ [':', first, second]))
      (cutOff : Text.sliceFrom? (Text.octetCount (Text.trimEnd line) - 2) (Text.trimEnd line) =
        some [high, low]) :
      CheckDigits line crc

/-- A tail with a check ends with its digits. -/
theorem exists_digits_of_readMetadata
    {tail : List Char}
    {crc : UInt8}
    (carried : (Reply.readMetadata tail).2 = some crc) :
    ∃ first second high low, Text.trim tail = [':', first, second, high, low] ∧
      Reply.hexOctet? high low = some crc := by
  rw [Reply.readMetadata] at carried
  split at carried
  next first second high low trimmed =>
    split at carried
    next isId isCrc =>
      cases carried
      exact ⟨first, second, high, low, trimmed, isCrc⟩
    next => simp at carried
  next => simp at carried

/-- Line ends are blank, so it does not matter whether they are cut off before. -/
theorem trimEnd_dropEndWhile (line : List Char) :
    Text.trimEnd (Text.dropEndWhile Text.isLineEnd line) = Text.trimEnd line := by
  rcases Text.exists_eq_dropEndWhile_append Text.isLineEnd line with ⟨gone, split, ends⟩
  have same := Text.dropEndWhile_append_of_all Text.isBlank
    (Text.dropEndWhile Text.isLineEnd line)
    fun character member => Text.isBlank_of_isLineEnd (ends character member)
  rw [← split] at same
  exact same.symm

/-- A reply with a check has its digits at the end of its line. -/
theorem checkDigits_of_read
    {line : List Char}
    {reply : Reply}
    {crc : UInt8}
    (decoded : Reply.read line = .ok reply)
    (carries : reply.crc = some crc) :
    CheckDigits line crc := by
  rw [← Reply.read_dropEndWhile] at decoded
  rcases Reply.exists_layout_of_read_eq_ok decoded with ⟨layout, stripped⟩
  rw [stripped] at decoded
  have metadata := Reply.metadata_of_read_text decoded
  rcases exists_digits_of_readMetadata (show (Reply.readMetadata layout.tail).2 = some crc by
    rw [metadata, carries]) with ⟨first, second, high, low, digits, value⟩
  rcases Text.exists_eq_append_trim_append layout.tail with ⟨front, back, split, _, blank⟩
  -- The text before the digits of the check.
  let before := '#' :: (layout.lead ++ '[' :: (layout.inner ++ ']' :: front))
  have trimmed : Text.trimEnd line = before ++ [':', first, second] ++ [high, low] := by
    have parts : layout.text = before ++ [':', first, second] ++ high :: low :: back := by
      rw [Reply.Layout.text, split, digits]
      simp [before]
    rw [← trimEnd_dropEndWhile, stripped, parts]
    exact trimEnd_append_digits _ _ (Reply.isHex_of_hexOctet? value).2 blank
  have two : Text.octetCount [high, low] = 2 :=
    Reply.octetCount_of_isHex (by simp [Reply.isHex_of_hexOctet? value])
  have offset : Text.octetCount (Text.trimEnd line) - 2 =
      Text.octetCount (before ++ [':', first, second]) := by
    rw [trimmed, Text.octetCount_append, two, Nat.add_sub_cancel]
  have brackets := Reply.bracketsAt?_of_closed layout.opens layout.closes layout.tail
  have behind := (Reply.slices_text layout).2
  rw [← Reply.Layout.text, ← stripped] at brackets
  rw [← stripped] at behind
  have ending : Text.trimEnd line = before ++ Text.trim layout.tail := by
    rw [trimmed, digits, List.append_assoc]
    rfl
  have covered : Text.slice? 0 (Text.octetCount (Text.trimEnd line) - 2) (Text.trimEnd line) =
      some (before ++ [':', first, second]) := by
    rw [offset, trimmed]
    exact Text.slice?_append [] _ _
  have cutOff : Text.sliceFrom? (Text.octetCount (Text.trimEnd line) - 2) (Text.trimEnd line) =
      some [high, low] := by
    rw [offset, trimmed]
    exact Text.sliceFrom?_append _ _
  exact .intro brackets behind digits value ending covered cutOff

theorem CheckDigits.two_le
    {line : List Char}
    {crc : UInt8}
    (digits : CheckDigits line crc) :
    2 ≤ Text.octetCount (Text.trimEnd line) := by
  cases digits with
  | intro _ _ metadata value trimmed _ _ =>
    have hex := Reply.isHex_of_hexOctet? value
    rw [trimmed, metadata]
    simp only [Text.octetCount_append, Text.octetCount_cons, hex.1.utf8Size_eq, hex.2.utf8Size_eq]
    omega

/--
Every cut that is made to read a line has its place, and so has the cut that is
made to check the reply: it leaves out exactly the two digits that the check of
the reply was read from.
-/
theorem cuts_in_place (codec : Codec) (line : List Char) :
    Reply.readAt? line = some (Reply.read line) ∧
      ∀ reply, Reply.read line = .ok reply →
        (∃ verdict, codec.verify? line reply = some verdict) ∧
          ∀ crc, reply.crc = some crc →
            CheckDigits line crc ∧
              (codec.mode = .crc8 → codec.verify? line reply =
                (Text.slice? 0 (Text.octetCount (Text.trimEnd line) - 2) (Text.trimEnd line)).map
                  fun covered => Checksum.crc8 (Text.Utf8.encode covered) == crc) := by
  refine ⟨Reply.readAt?_eq_some line, ?_⟩
  intro reply decoded
  refine ⟨codec.exists_verify?_eq_some decoded, ?_⟩
  intro crc carries
  have digits := checkDigits_of_read decoded carries
  refine ⟨digits, ?_⟩
  intro checking
  exact verify?_eq_slice checking carries digits.two_le

/-- The digits of a check are the same for both, behind wide characters and between wide blanks. -/
theorem cuts_in_place_wide :
    Reply.read "#é[0]\u3000:004F\u3000\r\n".toList = .ok ⟨0, [], some 0x00, some 0x4f⟩ ∧
      CheckDigits "#é[0]\u3000:004F\u3000\r\n".toList 0x4f := by
  have decoded : Reply.read "#é[0]\u3000:004F\u3000\r\n".toList =
      .ok ⟨0, [], some 0x00, some 0x4f⟩ := by
    decide +kernel
  exact ⟨decoded, ((cuts_in_place ⟨.crc8, 0⟩ _).2 _ decoded).2 _ rfl |>.1⟩

end Codec

end RoverLink
