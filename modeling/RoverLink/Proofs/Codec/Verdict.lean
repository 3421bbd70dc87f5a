import RoverLink.Proofs.Codec.Check

/-!
# What a line means to a session

`Judged` lists the reasons for which a session skips a line, takes it for an
answer or gives up the attempt, and `judged` says that these are all.  A line
that is not skipped is decisive: it is a complete frame, and no success with
the number of another request.
-/

namespace RoverLink.Codec

/-- Whether a line decodes, passes its check and fits the last request. -/
def Accepts (codec : Codec) (line : List Char) (reply : Reply) : Prop :=
  Reply.read line = .ok reply ∧ codec.verify? line reply = some true ∧
    codec.matchesRequest reply = true

/-- Whether a line is a correct success with the number of another request. -/
def IsForeign (codec : Codec) (line : List Char) : Prop :=
  ∃ reply id, Reply.read line = .ok reply ∧ codec.verify? line reply = some true ∧
    reply.status = 0 ∧ codec.mode = .crc8 ∧ reply.id = some id ∧ id ≠ codec.lastId

/-- Whether a line decides an attempt. -/
def IsDecisive (codec : Codec) (line : List Char) : Prop :=
  LineKind.ofLine line = .frame ∧ Reply.read line ≠ .error .truncated ∧ ¬ codec.IsForeign line

/-- The reasons for what a line means. -/
inductive Judged (codec : Codec) (line : List Char) : LineVerdict → Prop where
  | unframed (kind : LineKind.ofLine line ≠ .frame) :
      Judged codec line .skipped
  | truncated (kind : LineKind.ofLine line = .frame) (read : Reply.read line = .error .truncated) :
      Judged codec line .skipped
  | foreign (kind : LineKind.ofLine line = .frame) (other : codec.IsForeign line) :
      Judged codec line .skipped
  | undecodable {error : DecodeError} (kind : LineKind.ofLine line = .frame)
      (read : Reply.read line = .error error) (complete : error ≠ .truncated) :
      Judged codec line (.undecodable error)
  | corrupted {reply : Reply} (kind : LineKind.ofLine line = .frame)
      (read : Reply.read line = .ok reply) (verified : codec.verify? line reply = some false) :
      Judged codec line .corrupted
  | answer {reply : Reply} (kind : LineKind.ofLine line = .frame)
      (accepted : codec.Accepts line reply) :
      Judged codec line (.answer reply)

/-- A reply that does not fit the last request is a success with another number. -/
theorem of_matchesRequest_eq_false
    {codec : Codec}
    {reply : Reply}
    (unfit : codec.matchesRequest reply = false) :
    reply.status = 0 ∧ codec.mode = .crc8 ∧ ∃ id, reply.id = some id ∧ id ≠ codec.lastId := by
  rw [matchesRequest] at unfit
  split at unfit
  next id mode number =>
    simp only [Bool.or_eq_false_iff, beq_eq_false_iff_ne, bne_eq_false_iff_eq] at unfit
    exact ⟨unfit.2, mode, id, number, unfit.1⟩
  next => simp at unfit

theorem matchesRequest_eq_false
    {codec : Codec}
    {reply : Reply}
    {id : UInt8}
    (success : reply.status = 0)
    (checking : codec.mode = .crc8)
    (number : reply.id = some id)
    (other : id ≠ codec.lastId) :
    codec.matchesRequest reply = false := by
  simp [matchesRequest, checking, number, success, other]

/-- Every line means something for one of the reasons. -/
theorem judged (codec : Codec) (line : List Char) :
    codec.Judged line (codec.judge line) := by
  rw [judge]
  split
  next kind => exact .unframed (by simp [kind])
  next kind => exact .unframed (by simp [kind])
  next kind =>
    split
    next read => exact .truncated kind read
    next error complete read => exact .undecodable kind read complete
    next reply read =>
      rcases codec.exists_verify?_eq_some read with ⟨verdict, verified⟩
      cases verdict with
      | false => simpa [verified] using Judged.corrupted kind read verified
      | true =>
        cases fits : codec.matchesRequest reply with
        | true => simpa [verified, fits] using Judged.answer kind ⟨read, verified, fits⟩
        | false =>
          rcases of_matchesRequest_eq_false fits with ⟨success, checking, id, number, other⟩
          have foreign : codec.IsForeign line :=
            ⟨reply, id, read, verified, success, checking, number, other⟩
          simpa [verified, fits] using Judged.foreign kind foreign

/-- A frame that decodes, passes its check and fits the last request is an answer. -/
theorem judge_of_accepts
    {codec : Codec}
    {line : List Char}
    {reply : Reply}
    (kind : LineKind.ofLine line = .frame)
    (accepted : codec.Accepts line reply) :
    codec.judge line = .answer reply := by
  rcases accepted with ⟨read, verified, fits⟩
  simp [judge, kind, read, verified, fits]

/-- An answer is a frame that decodes, passes its check and fits the last request. -/
theorem of_judge_eq_answer
    {codec : Codec}
    {line : List Char}
    {reply : Reply}
    (judged : codec.judge line = .answer reply) :
    LineKind.ofLine line = .frame ∧ codec.Accepts line reply := by
  have reason := codec.judged line
  rw [judged] at reason
  cases reason with
  | answer kind accepted => exact ⟨kind, accepted⟩

/-- The lines that are not skipped are the decisive ones. -/
theorem isDecisive_iff_judge_ne_skipped (codec : Codec) (line : List Char) :
    codec.IsDecisive line ↔ codec.judge line ≠ .skipped := by
  have judged := codec.judged line
  generalize codec.judge line = verdict at judged
  constructor
  · rintro ⟨kind, complete, own⟩ rfl
    cases judged with
    | unframed unframed => exact unframed kind
    | truncated _ read => exact complete read
    | foreign _ other => exact own other
  · intro decided
    cases judged with
    | unframed _ => exact (decided rfl).elim
    | truncated _ _ => exact (decided rfl).elim
    | foreign _ _ => exact (decided rfl).elim
    | undecodable kind read complete =>
      refine ⟨kind, by simp [read, complete], ?_⟩
      rintro ⟨reply, _, decoded, _⟩
      simp [read] at decoded
    | corrupted kind read damaged =>
      refine ⟨kind, by simp [read], ?_⟩
      rintro ⟨reply, _, decoded, verified, _⟩
      cases read.symm.trans decoded
      simp [damaged] at verified
    | answer kind accepted =>
      rcases accepted with ⟨read, _, fits⟩
      refine ⟨kind, by simp [read], ?_⟩
      rintro ⟨reply, id, decoded, _, success, checking, number, other⟩
      cases read.symm.trans decoded
      simp [matchesRequest_eq_false success checking number other] at fits

theorem isDecisive_of_accepts
    {codec : Codec}
    {line : List Char}
    {reply : Reply}
    (kind : LineKind.ofLine line = .frame)
    (accepted : codec.Accepts line reply) :
    codec.IsDecisive line := by
  rw [isDecisive_iff_judge_ne_skipped, judge_of_accepts kind accepted]
  simp

/-! ### Successes with checks -/

/--
Whether a line without blanks at its end decodes to a reply that reports
success, carries no number or the given one, and no check or the check of the
line without the last two characters.
-/
def Vouches (number : UInt8) (line : List Char) (reply : Reply) : Prop :=
  Reply.read line = .ok reply ∧ reply.status = 0 ∧
    (∀ id, reply.id = some id → id = number) ∧
    ∀ crc, reply.crc = some crc →
      crc = Checksum.crc8 (Text.Utf8.encode line.dropLast.dropLast)

/-- With checks, a line vouches for a success that is accepted. -/
theorem vouches_of_accepts
    {codec : Codec}
    (checking : codec.mode = .crc8)
    {line : List Char}
    (trimmed : Text.trimEnd line = line)
    {reply : Reply}
    (accepted : codec.Accepts line reply)
    (success : reply.status = 0) :
    Vouches codec.lastId line reply := by
  rcases accepted with ⟨read, verified, fits⟩
  refine ⟨read, success, ?number, ?check⟩
  case number =>
    intro id number
    refine Decidable.byContradiction fun other => ?_
    simp [matchesRequest_eq_false success checking number other] at fits
  case check =>
    intro crc carries
    rw [verify?_of_crc checking read carries, trimmed] at verified
    exact (beq_iff_eq.mp (Option.some.inj verified)).symm

/--
Whether a line without blanks at its end is a success with one of some numbers,
and has the check that it carries.
-/
def isLate (numbers : List UInt8) (line : List Char) : Bool :=
  match Reply.read line with
  | .ok reply =>
    reply.status == 0 && reply.id.any numbers.contains &&
      reply.crc == some (Checksum.crc8 (Text.Utf8.encode line.dropLast.dropLast))
  | .error _ => false

/-- A success with the number of another request is skipped. -/
theorem judge_of_isLate
    {codec : Codec}
    (checking : codec.mode = .crc8)
    {numbers : List UInt8}
    (other : codec.lastId ∉ numbers)
    {line : List Char}
    (trimmed : Text.trimEnd line = line)
    (late : isLate numbers line = true) :
    codec.judge line = .skipped := by
  rw [isLate] at late
  split at late
  next reply read =>
    simp only [Bool.and_eq_true, beq_iff_eq, Option.any_eq_true] at late
    rcases late with ⟨⟨success, id, number, member⟩, carried⟩
    have verified : codec.verify? line reply = some true := by
      rw [verify?_of_crc checking read carried, trimmed, beq_self_eq_true]
    have foreign : codec.IsForeign line := by
      refine ⟨reply, id, read, verified, success, checking, number, ?_⟩
      rintro rfl
      exact other (List.contains_iff_mem.mp member)
    refine Decidable.byContradiction fun decided => ?_
    exact ((codec.isDecisive_iff_judge_ne_skipped line).mpr decided).2.2 foreign
  next => simp at late

end RoverLink.Codec
