import RoverLink.Proofs.Codec.Requests
import RoverLink.Proofs.Reply.Grammar

/-!
# Requests that are read as replies

A request has the layout of a reply: the list is that of its arguments, and the
suffix stands where a reply has its metadata.  So a request with an argument is
read as a reply with the first argument as its status, and the codec that wrote
it finds its own number and its own check in it (`decodes_encoded`).
-/

namespace RoverLink

/-! ### The list of a request -/

namespace Command

/-- An argument is an item of a list and is read as it is. -/
theorem isItem_argumentText (argument : Int64) :
    Json.IsItem (argumentText argument) (.whole argument.toInt) := by
  have least := argument.le_toInt
  have below := argument.toInt_lt
  apply Json.isItem_signed least
  rw [Word.count64]
  omega

theorem readList_arguments (first : Int64) (rest : List Int64) :
    Reply.readList ('[' :: argumentsText (first :: rest) ++ [']']) =
      some (.whole first.toInt :: rest.map fun argument => .whole argument.toInt) := by
  have items : List.Forall₂ Json.IsItem (rest.map argumentText)
      (rest.map fun argument => .whole argument.toInt) := by
    rw [List.forall₂_map_left_iff, List.forall₂_map_right_iff, List.forall₂_same]
    exact fun argument _ => isItem_argumentText argument
  rw [argumentsText, List.map_cons, Json.intercalate_eq_joined, List.cons_append]
  exact Reply.readList_joined (isItem_argumentText first) items

theorem opcode_ne_bracket (command : Command) : command.opcode ≠ '[' := by
  intro same
  have valid := command.opcode_valid
  rw [same] at valid
  revert valid
  decide

theorem not_mem_argumentsText (arguments : List Int64) : ']' ∉ argumentsText arguments := by
  intro member
  have other := mem_argumentsText member
  simp [Char.isDigit] at other

end Command

namespace Codec

/-- A request, cut at the brackets around its arguments. -/
def layout (codec : Codec) (command : Command) : Reply.Layout where
  lead := [command.opcode]
  inner := Command.argumentsText command.arguments
  tail := ':' :: codec.suffix command ++ ['\r']
  opens := by
    simpa using command.opcode_ne_bracket.symm
  closes := Command.not_mem_argumentsText command.arguments

theorem encode_eq_text (codec : Codec) (command : Command) :
    (codec.encode command).1 = (codec.layout command).text := by
  simp [encode_eq_withSuffix, Request.withSuffix, Request.head, Command.body, Command.bodyOf,
    Reply.Layout.text, layout]

/-! ### The suffix of a request -/

/-- A number and a check in the digits of a codec. -/
def metadata (id crc : UInt8) : Reply.WrittenMetadata where
  id := id
  crc := crc
  first := Nat.digitChar (id.toNat / 16)
  second := Nat.digitChar (id.toNat % 16)
  third := Nat.digitChar (crc.toNat / 16)
  fourth := Nat.digitChar (crc.toNat % 16)
  ofFirst := Reply.isHexDigit_high id
  ofSecond := Reply.isHexDigit_low id
  ofThird := Reply.isHexDigit_high crc
  ofFourth := Reply.isHexDigit_low crc

/-- The check that a codec gives to a request with a number. -/
def checkOf (command : Command) (id : UInt8) : UInt8 :=
  Checksum.crc8 (Text.Utf8.encode (checkedHead command id))

theorem readMetadata_of_checking
    {codec : Codec}
    (checking : codec.mode = .crc8)
    (command : Command) :
    Reply.readMetadata (codec.layout command).tail =
      (some (codec.lastId + 1), some (checkOf command (codec.lastId + 1))) := by
  have suffix : (codec.layout command).tail =
      (metadata (codec.lastId + 1) (checkOf command (codec.lastId + 1))).spelling ++ ['\r'] := by
    simp only [layout, Codec.suffix, checking]
    rfl
  rw [suffix]
  exact Reply.WrittenMetadata.readMetadata_append _ (List.forall_mem_singleton.mpr rfl)

theorem readMetadata_of_not_checking
    {codec : Codec}
    (unchecked : codec.mode = .placeholder)
    (command : Command) :
    Reply.readMetadata (codec.layout command).tail = (none, none) := by
  simp only [layout, suffix, unchecked]
  decide

/-- The check of a request covers what it was computed from. -/
theorem verify?_encode
    {codec : Codec}
    (checking : codec.mode = .crc8)
    (command : Command)
    {reply : Reply}
    (carried : reply.crc = some (checkOf command (codec.lastId + 1))) :
    (codec.encode command).2.verify? (codec.encode command).1 reply = some true := by
  have request : Request.withSuffix command (checkedSuffix command (codec.lastId + 1)) =
      checkedHead command (codec.lastId + 1) ++
        Nat.digitChar ((checkOf command (codec.lastId + 1)).toNat / 16) ::
          Nat.digitChar ((checkOf command (codec.lastId + 1)).toNat % 16) :: ['\r'] := by
    simp [Request.withSuffix, checkedSuffix, checkedHead, hexDigits, checkOf]
  rw [encode_of_checking checking, request]
  rw [verify?_of_metadata rfl carried _
    (Reply.isHex_of_isHexDigit (Reply.isHexDigit_high _))
    (Reply.isHex_of_isHexDigit (Reply.isHexDigit_low _)) (List.forall_mem_singleton.mpr rfl),
    checkOf, beq_self_eq_true]

/-! ### Reading a request as a reply -/

/-- The reply as which a request is read, with the first argument as its status. -/
def asReply (codec : Codec) (command : Command) (status : Int32) (rest : List Int64) : Reply where
  status := status
  values := rest.map fun argument => .number (Decimal.Binary64.ofInt argument.toInt)
  id := (Reply.readMetadata (codec.layout command).tail).1
  crc := (Reply.readMetadata (codec.layout command).tail).2

theorem readValues_whole (arguments : List Int64) :
    Reply.readValues (arguments.map fun argument => .whole argument.toInt) =
      .ok (arguments.map fun argument =>
        .number (Decimal.Binary64.ofInt argument.toInt)) := by
  induction arguments with
  | nil => rfl
  | cons argument arguments induction =>
    rw [List.map_cons, Reply.readValues, Reply.readValue, induction]
    rfl

theorem read_encode_asReply
    (codec : Codec)
    {command : Command}
    {first : Int64}
    {rest : List Int64}
    (arguments : command.arguments = first :: rest)
    {status : Int32}
    (fits : Word.int32? first.toInt = some status) :
    Reply.read (codec.encode command).1 = .ok (codec.asReply command status rest) := by
  have list : Reply.readList (codec.layout command).list =
      some (.whole first.toInt :: rest.map fun argument => .whole argument.toInt) := by
    rw [← Command.readList_arguments, ← arguments]
    rfl
  rw [encode_eq_text, Reply.read_text, Reply.ofParts, list]
  simp only [Reply.readStatus, fits, readValues_whole]
  rfl

/-- What a codec finds in a request that it has just written. -/
structure Agrees (codec : Codec) (command : Command) (first : Int64) (rest : List Int64)
    (reply : Reply) : Prop where
  status : reply.status.toInt = first.toInt
  /-- Every further argument is a value, rounded as numbers of replies are. -/
  values : reply.values =
    rest.map fun argument => .number (Decimal.Binary64.ofInt argument.toInt)
  count : reply.values.length = rest.length
  /-- With checks the number is that of the last request, and the check is there. -/
  checked : codec.mode = .crc8 →
    reply.id = some (codec.encode command).2.lastId ∧ ∃ crc, reply.crc = some crc
  /-- Without checks both are absent. -/
  unchecked : codec.mode = .placeholder → reply.id = none ∧ reply.crc = none
  verified : (codec.encode command).2.verify? (codec.encode command).1 reply = some true
  answers : (codec.encode command).2.matchesRequest reply = true

/-- A request decodes as a reply, and the codec that wrote it takes it for its own. -/
theorem decodes_encoded
    (codec : Codec)
    (command : Command)
    {first : Int64}
    {rest : List Int64}
    (arguments : command.arguments = first :: rest)
    (low : -0x80000000 ≤ first.toInt)
    (high : first.toInt < 0x80000000) :
    ∃ reply,
      Reply.read (codec.encode command).1 = .ok reply ∧
        codec.Agrees command first rest reply := by
  have fits : Word.int32? first.toInt = some (Int32.ofInt first.toInt) := if_pos ⟨low, high⟩
  refine ⟨_, codec.read_encode_asReply arguments fits, ?_⟩
  cases mode : codec.mode with
  | placeholder =>
    have metadata := readMetadata_of_not_checking mode command
    have after : (codec.encode command).2.mode = .placeholder := by simp [encode, mode]
    exact {
      status := Word.toInt_of_int32? fits
      values := rfl
      count := List.length_map _
      checked := fun checking => by simp [mode] at checking
      unchecked := fun _ => by simp [asReply, metadata]
      verified := by simp [verify?, after]
      answers := by simp [matchesRequest, after] }
  | crc8 =>
    have metadata := readMetadata_of_checking mode command
    have crc : (codec.asReply command (Int32.ofInt first.toInt) rest).crc =
        some (checkOf command (codec.lastId + 1)) := by
      simp [asReply, metadata]
    exact {
      status := Word.toInt_of_int32? fits
      values := rfl
      count := List.length_map _
      checked := fun _ => ⟨by simp [asReply, metadata, encode_of_checking mode], _, crc⟩
      unchecked := fun unchecked => by simp [mode] at unchecked
      verified := verify?_encode mode command crc
      answers := by simp [matchesRequest, asReply, metadata, encode_of_checking mode] }

/-- The first numbered request of a session, for a negative and a positive argument. -/
theorem decodes_encoded_pair :
    -0x80000000 ≤ (-5 : Int64).toInt ∧ (-5 : Int64).toInt < 0x80000000 ∧
      ∃ reply,
        Reply.read ((new .crc8).encode ⟨'V', [-5, 7], by decide, by decide⟩).1 = .ok reply ∧
          (new .crc8).Agrees ⟨'V', [-5, 7], by decide, by decide⟩ (-5) [7] reply :=
  ⟨by decide, by decide, decodes_encoded _ _ rfl (by decide) (by decide)⟩

end Codec

end RoverLink
