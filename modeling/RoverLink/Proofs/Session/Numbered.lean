import RoverLink.Proofs.Codec.Requests
import RoverLink.Proofs.Codec.Verdict
import RoverLink.Proofs.Session.Conclusion
import RoverLink.Proofs.Session.Delivery
import RoverLink.Proofs.Session.Log
import RoverLink.Proofs.Stream.Filtered
import RoverLink.Stream.Scripted

/-!
# Replies to numbered requests

A session with checks numbers its requests.  Every call takes the next number,
also a call that ends before its first write, so a number comes back after 255
others (`lastId_not_mem_numbers`).

A reply that such a session returns carries no number or the number of its own
request, and no check or the right one.  Late successes of the last 255 calls
are skipped: the session does the same over a stream that withholds them
(`checks_replies`).  The log that this speaks of changes nothing about what is
sent and returned (`deliverAll_forget`).
-/

namespace RoverLink

namespace Session

variable {Stream : Type} [ByteStream Stream]

/-- The numbers that the requests of commands get. -/
def numbers (session : Session (Logged Stream)) : List (Sending Stream) → List UInt8
  | [] => []
  | sending :: sendings =>
    (session.codec.encode sending.command).2.lastId ::
      numbers (session.deliver sending).state sendings

/-- Whether a line is a late success of one of some commands. -/
def isLateReply
    (session : Session (Logged Stream))
    (sendings : List (Sending Stream))
    (text : List Char) :
    Bool :=
  Codec.isLate (session.numbers sendings) (Text.trim text)

/-! ### Numbers -/

theorem codec_deliver
    {session : Session (Logged Stream)}
    (checking : session.codec.mode = .crc8)
    (sending : Sending Stream) :
    (session.deliver sending).state.codec = ⟨.crc8, session.codec.lastId + 1⟩ := by
  rw [deliver, codec_sendWithin]
  exact congrArg Prod.snd (Codec.encode_of_checking checking sending.command)

/-- Every command takes the next number. -/
theorem codec_deliverAll
    {session : Session (Logged Stream)}
    (checking : session.codec.mode = .crc8)
    (sendings : List (Sending Stream)) :
    (session.deliverAll sendings).codec =
      ⟨.crc8, session.codec.lastId + UInt8.ofNat sendings.length⟩ := by
  induction sendings generalizing session with
  | nil =>
    rw [← checking]
    simp [deliverAll]
  | cons sending sendings induction =>
    have codec := codec_deliver checking sending
    have later : (session.deliverAll (sending :: sendings)).codec =
        ⟨.crc8, (session.deliver sending).state.codec.lastId + UInt8.ofNat sendings.length⟩ :=
      induction (by rw [codec])
    rw [later, codec, Codec.add_one_add_ofNat, List.length_cons]

theorem exists_of_mem_numbers
    {session : Session (Logged Stream)}
    (checking : session.codec.mode = .crc8)
    {sendings : List (Sending Stream)}
    {number : UInt8}
    (member : number ∈ session.numbers sendings) :
    ∃ place < sendings.length, number = session.codec.lastId + UInt8.ofNat (place + 1) := by
  induction sendings generalizing session with
  | nil => simp [numbers] at member
  | cons sending sendings induction =>
    rcases List.mem_cons.mp member with first | later
    · refine ⟨0, by simp, ?_⟩
      rw [first, Codec.encode_of_checking checking]
      rfl
    · have codec := codec_deliver checking sending
      rcases induction (by rw [codec]) later with ⟨place, inside, number⟩
      refine ⟨place + 1, by simpa using inside, ?_⟩
      rw [number, codec, Codec.add_one_add_ofNat]

/-- The next number is none of the last 255. -/
theorem lastId_not_mem_numbers
    {session : Session (Logged Stream)}
    (checking : session.codec.mode = .crc8)
    {recent : List (Sending Stream)}
    (few : recent.length ≤ 255) :
    (session.deliverAll recent).codec.lastId + 1 ∉ session.numbers recent := by
  intro member
  rcases exists_of_mem_numbers checking member with ⟨place, inside, same⟩
  rw [codec_deliverAll checking] at same
  have values := congrArg UInt8.toNat same
  simp only [UInt8.toNat_add, UInt8.toNat_ofNat'] at values
  have one : (1 : UInt8).toNat = 1 := rfl
  omega

/-! ### What is taken for a reply -/

/-- The line with which a call was answered, and the number that its request was written with. -/
structure AnsweredBy
    (session : Session (Logged Stream))
    (sending : Sending Stream)
    (reply : Reply)
    (text : List Char)
    (number : UInt8) :
    Prop where
  /-- Nothing was read behind the line. -/
  last : (session.deliver sending).state.stream.log.getLast? = some (.read (.line text))
  /-- The line vouches for the reply and for the number. -/
  vouches : Codec.Vouches number (Text.trim text) reply
  /-- The request was sent, with the number in its frame. -/
  sent : session.tries sending ≠ []
  written :
    (session.deliver sending).state.stream.transfers =
      session.stream.transfers ++
        (session.tries sending).map
          (Ending.transfer (Text.Utf8.encode (Request.withSuffix sending.command
            (Codec.checkedSuffix sending.command number))))

/--
Whether a call ignores some lines.  If they are withheld, the call makes the
same attempts, writes and reads the same, and ends in the same way.
-/
def Ignores
    (session : Session (Logged Stream))
    (sending : Sending Stream)
    (isIgnored : List Char → Bool) :
    Prop :=
  ((session.ready sending).mapStream (Filtered.without isIgnored)).sendWithin
        sending.command sending.limits sending.clock =
      (session.deliver sending).within (mapStream (Filtered.without isIgnored)) ∧
    ((session.ready sending).mapStream (Filtered.without isIgnored)).attempts
        sending.command sending.limits sending.clock =
      session.tries sending

/-- What a session may take for the reply to a command, after others have been sent. -/
structure ChecksReplies
    (session : Session (Logged Stream))
    (history : List (Sending Stream))
    (sending : Sending Stream) :
    Prop where
  /-- The last line that was read vouches for the reply and for the number that was written. -/
  answered : ∀ reply,
    ((session.deliverAll history).deliver sending).result = .ok reply →
      ∃ text number, (session.deliverAll history).AnsweredBy sending reply text number
  /-- Late successes of at most 255 calls before are ignored. -/
  late : ∀ earlier recent, history = earlier ++ recent → recent.length ≤ 255 →
    (session.deliverAll history).Ignores sending
      ((session.deliverAll earlier).isLateReply recent)

theorem ne_nil_of_concluded
    {attempts : List Ending}
    {reply : Reply}
    (concluded : Concluded attempts.getLast? (.ok reply)) :
    attempts ≠ [] ∧ reply.status = 0 := by
  generalize final : attempts.getLast? = last at concluded
  cases concluded with
  | success success =>
    refine ⟨?_, success⟩
    rintro rfl
    simp at final

/-- A call of a session with checks is answered by a line that vouches for its own number. -/
theorem answeredBy_of_result_eq_ok
    {session : Session (Logged Stream)}
    (checking : session.codec.mode = .crc8)
    {sending : Sending Stream}
    {reply : Reply}
    (answered : (session.deliver sending).result = .ok reply) :
    ∃ text, session.AnsweredBy sending reply text (session.codec.lastId + 1) := by
  have encoded : (session.ready sending).codec.encode sending.command = _ :=
    Codec.encode_of_checking checking sending.command
  have written := transfers_sendWithin (session.ready sending)
    sending.command sending.limits sending.clock
  have concluded := concluded_sendWithin (session.ready sending)
    sending.command sending.limits sending.clock
  rw [show (session.ready sending).sendWithin _ _ _ = session.deliver sending from rfl,
    answered] at concluded
  rcases ne_nil_of_concluded concluded with ⟨tried, success⟩
  rcases endsWithAnswer_sendWithin answered with ⟨text, last, judged⟩
  have accepted := (Codec.of_judge_eq_answer judged).2
  rw [encoded] at written accepted
  have vouches := Codec.vouches_of_accepts rfl (Text.trimEnd_trim text) accepted success
  exact ⟨text, last, vouches, tried, written⟩

/-- A call ignores late successes with other numbers than its own. -/
theorem ignores_isLate
    {session : Session (Logged Stream)}
    (checking : session.codec.mode = .crc8)
    {numbers : List UInt8}
    (fresh : session.codec.lastId + 1 ∉ numbers)
    (sending : Sending Stream) :
    session.Ignores sending fun text => Codec.isLate numbers (Text.trim text) := by
  have encoded : (session.ready sending).codec.encode sending.command = _ :=
    Codec.encode_of_checking checking sending.command
  refine sendWithin_codecMap (Filtered.withhold ?skipped) (congrArg Prod.snd encoded) _ _
  intro text late
  exact Codec.judge_of_isLate rfl fresh (Text.trimEnd_trim text) late

/-- A session with checks takes only checked replies to its own requests. -/
theorem checks_replies
    (stream : Stream)
    (config : SessionConfig)
    (history : List (Sending Stream))
    (sending : Sending Stream) :
    ChecksReplies (Session.new (Logged.start stream) { config with checksum := .crc8 })
      history sending := by
  have checking :
      (Session.new (Logged.start stream) { config with checksum := .crc8 }).codec.mode = .crc8 :=
    rfl
  generalize Session.new (Logged.start stream) { config with checksum := .crc8 } = session
    at checking
  have stillChecking : ∀ sendings, (session.deliverAll sendings).codec.mode = .crc8 := by
    intro sendings
    rw [codec_deliverAll checking]
  constructor
  case answered =>
    intro reply answered
    rcases answeredBy_of_result_eq_ok (stillChecking history) answered with ⟨text, answeredBy⟩
    exact ⟨text, _, answeredBy⟩
  case late =>
    rintro earlier recent rfl few
    have split : session.deliverAll (earlier ++ recent) =
        (session.deliverAll earlier).deliverAll recent :=
      List.foldl_append
    apply ignores_isLate (stillChecking (earlier ++ recent))
    rw [split]
    exact lastId_not_mem_numbers (stillChecking earlier) few

/-- The reply to the first of two commands comes late, and the second takes its own. -/
example :
    let line (id : UInt8) : List Char :=
      let head := ['#', '[', '0', ']', ':'] ++ Codec.hexDigits id
      head ++ Codec.hexDigits (Checksum.crc8 (Text.Utf8.encode head))
    let stream := (Scripted.empty.reply []).reply [.line (line 0), .line (line 1)]
    let session := Session.new (Logged.start stream)
      ⟨.withoutBackoff 1, .ofMilliseconds 1, .crc8⟩
    let sending : Sending Scripted := .prompt (.query 'e' (by decide)) .none .start
    session.isLateReply [sending] (line 0) = true ∧
      ((session.deliverAll [sending]).deliver sending).result.toOption.map Reply.id =
        some (some 1) := by
  decide +kernel

end Session

end RoverLink
