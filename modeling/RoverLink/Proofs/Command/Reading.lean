import RoverLink.Command.Request
import RoverLink.Proofs.Decimal.Digits
import RoverLink.Proofs.Text.Cutting
import RoverLink.Proofs.Text.Splitting
import RoverLink.Proofs.Text.Utf8

/-!
# Reading back a written request

The arguments of a command are written in decimal, so their texts hold digits
and minus signs and nothing else.  None of these characters is a blank or a
comma, and no character of a body is a colon or a mark of a frame.  A request
can therefore be cut at its marks again, and each argument reads back
(`read_withSuffix`).
-/

namespace RoverLink

namespace Decimal

/-- A text of digits is read without a sign. -/
theorem integer?_of_isDigit
    {text : List Char}
    (nonempty : text ≠ [])
    (digits : ∀ character ∈ text, character.isDigit = true) :
    integer? text = some (ofDigits text : Int) := by
  cases text with
  | nil => exact (nonempty rfl).elim
  | cons first rest =>
    have digit : first.isDigit = true := digits first (by simp)
    have plus : first ≠ '+' := by
      rintro rfl
      simp [Char.isDigit] at digit
    have minus : first ≠ '-' := by
      rintro rfl
      simp [Char.isDigit] at digit
    have all : (first :: rest).all Char.isDigit = true := List.all_eq_true.mpr digits
    rw [integer?]
    · rw [if_pos ⟨nonempty, all⟩]
      rfl
    · intro body same
      exact plus (List.cons.inj same).1
    · intro body same
      exact minus (List.cons.inj same).1

/-- A written integer reads back. -/
theorem integer?_signed (integer : Int) : integer? (signed integer) = some integer := by
  cases integer with
  | ofNat magnitude =>
    rw [signed, integer?_of_isDigit (digits_ne_nil magnitude) fun _ => isDigit_of_mem_digits,
      ofDigits_digits]
    rfl
  | negSucc below =>
    have all : (digits (below + 1)).all Char.isDigit = true :=
      List.all_eq_true.mpr fun _ => isDigit_of_mem_digits
    simp only [integer?, signed]
    rw [if_pos ⟨digits_ne_nil _, all⟩, ofDigits_digits]
    rfl

end Decimal

/-! ### The characters of a body -/

theorem toNat_of_isAlphanum
    {character : Char}
    (alphanumeric : character.isAlphanum = true) :
    48 ≤ character.toNat ∧ character.toNat ≤ 122 := by
  have within : (decide ('A'.val ≤ character.val ∧ character.val ≤ 'Z'.val) ||
      decide ('a'.val ≤ character.val) && decide (character.val ≤ 'z'.val) ||
      decide ('0'.val ≤ character.val) && decide (character.val ≤ '9'.val)) = true :=
    alphanumeric
  simp only [Bool.or_eq_true, Bool.and_eq_true, decide_eq_true_eq, UInt32.le_iff_toNat_le]
    at within
  simp only [Char.toNat]
  have zero : '0'.val.toNat = 48 := rfl
  have nine : '9'.val.toNat = 57 := rfl
  have upper : 'A'.val.toNat = 65 := rfl
  have upperEnd : 'Z'.val.toNat = 90 := rfl
  have lower : 'a'.val.toNat = 97 := rfl
  have lowerEnd : 'z'.val.toNat = 122 := rfl
  omega

theorem Text.isBlank_of_toNat
    {character : Char}
    (low : 33 ≤ character.toNat)
    (high : character.toNat < 128) :
    isBlank character = false := by
  simp only [isBlank, Bool.or_eq_false_iff, Bool.and_eq_false_iff, decide_eq_false_iff_not,
    beq_eq_false_iff_ne]
  omega

namespace Command

theorem argumentText_ne_nil (argument : Int64) : argumentText argument ≠ [] :=
  Decimal.signed_ne_nil _

/-- The characters of arguments and the commas between them. -/
theorem mem_argumentsText
    {arguments : List Int64}
    {character : Char}
    (member : character ∈ argumentsText arguments) :
    character.isDigit = true ∨ character = '-' ∨ character = ',' := by
  induction arguments with
  | nil => simp [argumentsText] at member
  | cons argument arguments induction =>
    cases arguments with
    | nil =>
      have inFirst : character ∈ argumentText argument := by
        simpa [argumentsText] using member
      exact (Decimal.mem_signed inFirst).imp_right Or.inl
    | cons next others =>
      have joined : argumentsText (argument :: next :: others) =
          argumentText argument ++ ',' :: argumentsText (next :: others) := by
        simp [argumentsText, List.intercalate_cons_cons]
      rw [joined] at member
      rcases List.mem_append.mp member with inFirst | behind
      · exact (Decimal.mem_signed inFirst).imp_right Or.inl
      · rcases List.mem_cons.mp behind with comma | later
        · exact Or.inr (Or.inr comma)
        · exact induction later

/-- The characters of a body whose opcode is valid. -/
theorem mem_bodyOf
    {opcode : Char}
    {arguments : List Int64}
    {character : Char}
    (opcode_valid : isOpcode opcode = true)
    (member : character ∈ bodyOf opcode arguments) :
    character.isAlphanum = true ∨ character ∈ ['?', '[', ']', '-', ','] := by
  simp only [bodyOf, List.mem_append, List.mem_cons, List.not_mem_nil, or_false] at member
  rcases member with (rfl | opening | inArguments) | closing
  · simp only [isOpcode, Bool.or_eq_true, beq_iff_eq] at opcode_valid
    exact opcode_valid.imp_right (by simp_all)
  · exact Or.inr (by simp [opening])
  · rcases mem_argumentsText inArguments with digit | sign | comma
    · exact Or.inl (by simp [Char.isAlphanum, digit])
    · exact Or.inr (by simp [sign])
    · exact Or.inr (by simp [comma])
  · exact Or.inr (by simp [closing])

theorem toNat_lt_of_mem_bodyOf
    {opcode : Char}
    {arguments : List Int64}
    {character : Char}
    (opcode_valid : isOpcode opcode = true)
    (member : character ∈ bodyOf opcode arguments) :
    character.toNat < 128 := by
  rcases mem_bodyOf opcode_valid member with alphanumeric | mark
  · have := toNat_of_isAlphanum alphanumeric
    omega
  · have ascii : ∀ other ∈ ['?', '[', ']', '-', ','], other.toNat < 128 := by simp
    exact ascii character mark

/-- The octets of a body are as few as its characters. -/
theorem length_encode_bodyOf
    {opcode : Char}
    (opcode_valid : isOpcode opcode = true)
    (arguments : List Int64) :
    (Text.Utf8.encode (bodyOf opcode arguments)).length = (bodyOf opcode arguments).length :=
  Text.Utf8.length_encode_of_lt fun _ => toNat_lt_of_mem_bodyOf opcode_valid

theorem length_encode_body_le (command : Command) :
    (Text.Utf8.encode command.body).length ≤ maximumLength := by
  rw [body, length_encode_bodyOf command.opcode_valid]
  exact command.length_le

/-- The marks of a frame are not letters or digits. -/
theorem isAlphanum_of_isMark
    {mark : Char}
    (isMark : mark ∈ ['#', ':', '\r']) :
    mark.isAlphanum = false := by
  simp only [List.mem_cons, List.not_mem_nil, or_false] at isMark
  rcases isMark with rfl | rfl | rfl <;> rfl

/-- The marks of a frame do not occur in a body. -/
theorem not_mem_body
    (command : Command)
    {mark : Char}
    (isMark : mark ∈ ['#', ':', '\r']) :
    mark ∉ command.body := by
  intro member
  rcases mem_bodyOf command.opcode_valid member with alphanumeric | inBody
  · simp [isAlphanum_of_isMark isMark] at alphanumeric
  · have apart : ∀ other ∈ ['#', ':', '\r'], other ∉ ['?', '[', ']', '-', ','] := by simp
    exact apart mark isMark inBody

end Command

/-! ### Reading a request -/

namespace Request

theorem argument?_argumentText (argument : Int64) :
    argument? (Command.argumentText argument) = some argument := by
  have solid : ∀ character ∈ Command.argumentText argument,
      Text.isBlank character = false := by
    intro character member
    rcases Decimal.mem_signed member with digit | rfl
    · have alphanumeric : character.isAlphanum = true := by simp [Char.isAlphanum, digit]
      have bounds := toNat_of_isAlphanum alphanumeric
      exact Text.isBlank_of_toNat (by omega) (by omega)
    · decide
  rw [argument?, Text.trim_of_all_not_blank solid, Command.argumentText, Decimal.integer?_signed]
  simp

theorem mapM_argument? (arguments : List Int64) :
    (arguments.map Command.argumentText).mapM argument? = some arguments := by
  induction arguments with
  | nil => rfl
  | cons argument arguments induction =>
    simp [argument?_argumentText, induction]

theorem arguments?_argumentsText (arguments : List Int64) :
    arguments? (Command.argumentsText arguments) = some arguments := by
  cases arguments with
  | nil => rfl
  | cons argument arguments =>
    have pieces : Text.splitEvery ',' (Command.argumentsText (argument :: arguments)) =
        (argument :: arguments).map Command.argumentText := by
      apply Text.splitEvery_intercalate (by simp)
      intro piece member
      rcases List.mem_map.mp member with ⟨other, _, rfl⟩
      intro comma
      rcases Decimal.mem_signed comma with digit | sign
      · simp [Char.isDigit] at digit
      · simp at sign
    -- Without an argument there would be one empty piece.
    have nonempty : Command.argumentsText (argument :: arguments) ≠ [] := by
      intro empty
      rw [empty] at pieces
      exact Command.argumentText_ne_nil argument (List.cons.inj pieces).1.symm
    rw [arguments?, if_neg nonempty, pieces, mapM_argument?]

theorem readBody_body (command : Command) : readBody command.body = .ok command := by
  have inner : betweenBrackets?
      ('[' :: Command.argumentsText command.arguments ++ [']']) =
        some (Command.argumentsText command.arguments) := by
    simp [betweenBrackets?]
  have split : command.body =
      command.opcode :: ('[' :: Command.argumentsText command.arguments ++ [']']) :=
    rfl
  rw [split, readBody, inner]
  simp only [arguments?_argumentsText, Command.make_eq_ok]
  rfl

/-- A written request reads back as its command, whatever its suffix is. -/
theorem read_withSuffix
    (command : Command)
    {suffix : List Char}
    (colon : ':' ∉ suffix)
    (ending : '\r' ∉ suffix) :
    read (withSuffix command suffix) = .ok command := by
  have kept : Text.dropEndWhile (· == '\r') suffix = suffix := by
    apply Text.dropEndWhile_of_all_not
    intro character member
    exact beq_eq_false_iff_ne.mpr fun same => ending (same ▸ member)
  have text : Text.dropEndWhile (· == '\r') (withSuffix command suffix) =
      '#' :: (command.body ++ ':' :: suffix) := by
    rw [withSuffix, Text.dropEndWhile_concat_of _ _ _ (by simp), head]
    rw [List.append_assoc, List.singleton_append]
    rw [Text.dropEndWhile_append_cons_of_not _ _ _ (by simp), kept]
    rfl
  rw [read, text]
  simp only [Text.splitLast?_append_cons command.body colon, readBody_body]

end Request

end RoverLink
