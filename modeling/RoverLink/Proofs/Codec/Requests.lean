import RoverLink.Proofs.Codec.Check
import RoverLink.Proofs.Command.Reading

/-!
# The requests of a codec, one after the other

A codec writes one request after the other.  Each request ends with its only
carriage return, so a stream of requests can be cut into them again, and each
reads back as its command.  With checks, the requests of a new codec are
numbered from zero on and start again after 255.
-/

namespace RoverLink

namespace Codec

/-! ### One request -/

theorem isAlphanum_of_mem_hexDigits
    {octet : UInt8}
    {character : Char}
    (member : character ∈ hexDigits octet) :
    character.isAlphanum = true := by
  have digit : ∀ value < 16, (Nat.digitChar value).isAlphanum = true := by decide
  have bound := octet.toNat_lt
  simp only [hexDigits, List.mem_cons, List.not_mem_nil, or_false] at member
  rcases member with rfl | rfl
  · exact digit _ (by omega)
  · exact digit _ (Nat.mod_lt _ (by decide))

/-- The suffix that a codec gives to its next request. -/
def suffix (codec : Codec) (command : Command) : List Char :=
  match codec.mode with
  | .placeholder => Request.placeholder
  | .crc8 => checkedSuffix command (codec.lastId + 1)

theorem encode_eq_withSuffix (codec : Codec) (command : Command) :
    (codec.encode command).1 = Request.withSuffix command (codec.suffix command) := by
  rcases codec with ⟨mode, lastId⟩
  cases mode <;> rfl

theorem encode_of_checking
    {codec : Codec}
    (checking : codec.mode = .crc8)
    (command : Command) :
    codec.encode command =
      (Request.withSuffix command (checkedSuffix command (codec.lastId + 1)),
        ⟨.crc8, codec.lastId + 1⟩) := by
  rcases codec with ⟨mode, lastId⟩
  cases checking
  rfl

/-- The numbers after the next one are those behind it. -/
theorem add_one_add_ofNat (number : UInt8) (place : Nat) :
    number + 1 + UInt8.ofNat place = number + UInt8.ofNat (place + 1) := by
  rw [UInt8.ofNat_add, UInt8.add_assoc, UInt8.add_comm 1]
  rfl

theorem length_suffix (codec : Codec) (command : Command) :
    (codec.suffix command).length = 4 := by
  rw [suffix]
  split <;> rfl

theorem isAlphanum_of_mem_suffix
    {codec : Codec}
    {command : Command}
    {character : Char}
    (member : character ∈ codec.suffix command) :
    character.isAlphanum = true := by
  rw [suffix] at member
  split at member
  · have letter : character = 'x' := by simpa [Request.placeholder] using member
    exact letter ▸ rfl
  · rcases List.mem_append.mp member with number | check
    · exact isAlphanum_of_mem_hexDigits number
    · exact isAlphanum_of_mem_hexDigits check

/-- The marks of a frame do not occur in a suffix. -/
theorem not_mem_suffix
    (codec : Codec)
    (command : Command)
    {mark : Char}
    (isMark : mark ∈ ['#', ':', '\r']) :
    mark ∉ codec.suffix command := by
  intro member
  simpa [Command.isAlphanum_of_isMark isMark] using isAlphanum_of_mem_suffix member

/-- The marks of a frame that stand inside of a request are its first character and a colon. -/
theorem not_mem_body_append_suffix
    (codec : Codec)
    (command : Command)
    {mark : Char}
    (isMark : mark ∈ ['#', '\r']) :
    mark ∉ command.body ++ ':' :: codec.suffix command := by
  have known : mark ∈ ['#', ':', '\r'] := by
    simp only [List.mem_cons, List.not_mem_nil, or_false] at isMark ⊢
    exact isMark.imp_right .inr
  have colon : mark ≠ ':' := by
    rintro rfl
    simp at isMark
  simp [command.not_mem_body known, codec.not_mem_suffix command known, colon]

/-- The parts of a request for a command, in which the marks of a frame occur nowhere else. -/
def IsLaidOut (command : Command) (request : List Char) : Prop :=
  ∃ suffix,
    request = '#' :: command.body ++ ':' :: suffix ++ ['\r'] ∧
      (Text.Utf8.encode command.body).length ≤ 58 ∧
      suffix.length = 4 ∧
      '#' ∉ command.body ++ ':' :: suffix ∧
      '\r' ∉ command.body ++ ':' :: suffix

theorem isLaidOut_encode (codec : Codec) (command : Command) :
    IsLaidOut command (codec.encode command).1 := by
  refine ⟨codec.suffix command, ?_, command.length_encode_body_le,
    codec.length_suffix command, codec.not_mem_body_append_suffix command (by simp),
    codec.not_mem_body_append_suffix command (by simp)⟩
  simp [encode_eq_withSuffix, Request.withSuffix, Request.head]

/-- A request ends with its only carriage return. -/
theorem IsLaidOut.ended
    {command : Command}
    {request : List Char}
    (layout : IsLaidOut command request) :
    ∃ body, request = body ++ ['\r'] ∧ '\r' ∉ body := by
  rcases layout with ⟨suffix, rfl, _, _, _, inside⟩
  exact ⟨'#' :: command.body ++ ':' :: suffix, rfl, by simpa using inside⟩

theorem read_encode (codec : Codec) (command : Command) :
    Request.read (codec.encode command).1 = .ok command := by
  rw [encode_eq_withSuffix]
  exact Request.read_withSuffix command
    (codec.not_mem_suffix command (by simp)) (codec.not_mem_suffix command (by simp))

/-! ### Many requests -/

/-- The requests of commands, in their order. -/
def requests (codec : Codec) : List Command → List (List Char)
  | [] => []
  | command :: commands =>
    (codec.encode command).1 :: requests (codec.encode command).2 commands

theorem forall₂_isLaidOut_requests (codec : Codec) (commands : List Command) :
    List.Forall₂ IsLaidOut commands (codec.requests commands) := by
  induction commands generalizing codec with
  | nil => exact .nil
  | cons command commands induction =>
    exact .cons (codec.isLaidOut_encode command) (induction (codec.encode command).2)

theorem ended_of_mem_requests
    {codec : Codec}
    {commands : List Command}
    {request : List Char}
    (member : request ∈ codec.requests commands) :
    ∃ body, request = body ++ ['\r'] ∧ '\r' ∉ body := by
  induction commands generalizing codec with
  | nil => simp [requests] at member
  | cons command commands induction =>
    rcases List.mem_cons.mp member with rfl | later
    · exact (codec.isLaidOut_encode command).ended
    · exact induction later

theorem map_read_requests (codec : Codec) (commands : List Command) :
    (codec.requests commands).map Request.read = commands.map .ok := by
  induction commands generalizing codec with
  | nil => rfl
  | cons command commands induction => simp [requests, read_encode, induction]

/-- The number of a request follows from its place. -/
theorem getElem?_requests_crc8
    (lastId : UInt8)
    (commands : List Command)
    (place : Nat) :
    (requests ⟨.crc8, lastId⟩ commands)[place]? =
      commands[place]?.map fun command =>
        Request.withSuffix command
          (checkedSuffix command (lastId + UInt8.ofNat (place + 1))) := by
  induction commands generalizing lastId place with
  | nil => rfl
  | cons command commands induction =>
    cases place with
    | zero => rfl
    | succ place =>
      rw [List.getElem?_cons_succ, ← add_one_add_ofNat, ← induction]
      rfl

/-! ### The stream of requests -/

/-- What can be told of the requests of commands. -/
structure RequestStream (codec : Codec) (commands : List Command) : Prop where
  /-- Cut behind its carriage returns, the stream falls into the requests again. -/
  pieces :
    Text.cutAfter '\r' (codec.requests commands).flatten = codec.requests commands
  /-- There is one piece for each command, and it reads back as this command. -/
  readings :
    (Text.cutAfter '\r' (codec.requests commands).flatten).map Request.read = commands.map .ok
  /-- Each request has the parts of a request for its command. -/
  layout : List.Forall₂ IsLaidOut commands (codec.requests commands)
  /-- A new codec numbers its requests from zero on and adds the check of all that is before. -/
  numbers : codec = .new .crc8 →
    ∀ (place : Nat) (command : Command), commands[place]? = some command →
    ∃ checked,
      checked = '#' :: command.body ++ ':' :: hexDigits (UInt8.ofNat (place % 256)) ∧
        (codec.requests commands)[place]? =
          some (checked ++ hexDigits (Checksum.crc8 (Text.Utf8.encode checked)) ++ ['\r'])

/-- A stream of requests can be taken apart into the commands that it was made from. -/
theorem requestStream (codec : Codec) (commands : List Command) :
    RequestStream codec commands := by
  have pieces : Text.cutAfter '\r' (codec.requests commands).flatten = codec.requests commands :=
    Text.cutAfter_flatten fun _ => ended_of_mem_requests
  constructor
  case pieces => exact pieces
  case readings => rw [pieces, map_read_requests]
  case layout => exact codec.forall₂_isLaidOut_requests commands
  case numbers =>
    rintro rfl place command found
    refine ⟨_, rfl, ?_⟩
    -- The number before the first one is 255.
    have number : (255 : UInt8) + UInt8.ofNat (place + 1) = UInt8.ofNat (place % 256) := by
      apply UInt8.toNat_inj.mp
      simp
      omega
    rw [new, getElem?_requests_crc8, found, number]
    simp [Request.withSuffix, Request.head, checkedSuffix, checkedHead]

/-- Two requests with checks, cut apart and read back. -/
example :
    let commands : List Command := [.query 'e' (by decide), .switch 'E' (by decide) true]
    (Text.cutAfter '\r' ((Codec.new .crc8).requests commands).flatten).map
        (fun piece => (Request.read piece).toOption) =
      commands.map some := by
  decide +kernel

end Codec

end RoverLink
