import RoverLink.Proofs.Session.Record

/-!
# Attempts on a scripted stream

What an attempt brings is a matter of the stream and the codec: the first
decisive line among the arrivals, a failure of the link before it, or nothing.
`Attempted` says this for one attempt, and `Attempts` for several in a row.

Without limits, and as long as no time passes while something can be read, an
attempt of a session brings just that (`attempted_exchange`).
-/

namespace RoverLink

/-- What an attempt brought. -/
inductive Reception where
  | broken (error : IoError)
  | silent
  /-- A decisive line, without blanks around it. -/
  | decided (line : List Char)

namespace Reception

/-- Whether the request should be sent again. -/
def IsTransient (codec : Codec) : Reception → Prop
  | .broken _ => False
  | .silent => True
  | .decided line => ∃ reply, Reply.read line = .ok reply ∧
      (codec.verify? line reply = some false ∨ reply.status < 0)

/-- The result of a request after what its last attempt brought. -/
inductive Settles (codec : Codec) : Reception → Except Error Reply → Prop where
  | broken {error : IoError} :
      Settles codec (.broken error) (.error (.linkLost error.message))
  | undecodable {line : List Char} {error : DecodeError}
      (read : Reply.read line = .error error) :
      Settles codec (.decided line) (.error (error.toError line))
  | success {line : List Char} {reply : Reply}
      (accepted : codec.Accepts line reply)
      (zero : reply.status = 0) :
      Settles codec (.decided line) (.ok reply)
  | refusal {line : List Char} {reply : Reply}
      (accepted : codec.Accepts line reply)
      (positive : 0 < reply.status) :
      Settles codec (.decided line) (.error (.deviceError reply.status reply.message))

/-- What an attempt settles, if it settles anything. -/
def Concludes (codec : Codec) (reception : Reception) : Option (Except Error Reply) → Prop
  | none => reception.IsTransient codec
  | some result => reception.Settles codec result

theorem Settles.not_isTransient
    {codec : Codec}
    {reception : Reception}
    {result : Except Error Reply}
    (settled : reception.Settles codec result) :
    ¬ reception.IsTransient codec := by
  cases settled with
  | broken => exact id
  | undecodable read =>
    rintro ⟨reply, decoded, _⟩
    simp [read] at decoded
  | success accepted zero =>
    rintro ⟨reply, decoded, damaged | negative⟩
    · cases accepted.1.symm.trans decoded
      simp [accepted.2.1] at damaged
    · cases accepted.1.symm.trans decoded
      simp [zero] at negative
  | refusal accepted positive =>
    rintro ⟨reply, decoded, damaged | negative⟩
    · cases accepted.1.symm.trans decoded
      simp [accepted.2.1] at damaged
    · cases accepted.1.symm.trans decoded
      exact Int32.lt_asymm positive negative

end Reception

/-- Whether reading goes on after an arrival. -/
def Codec.PassesOver (codec : Codec) (arrival : Arrival) : Prop :=
  match arrival.outcome with
  | .line text => ¬ codec.IsDecisive (Text.trim text)
  | .failed error => error.isReadTimeout = true
  | .nothing => True
  | .quiet => True

/-- What is read from a connected stream up to its first decisive line. -/
inductive Received (codec : Codec) (stream : Scripted) : Reception → Scripted → Prop where
  | silent (passed : ∀ arrival ∈ stream.readable, codec.PassesOver arrival) :
      Received codec stream .silent { stream with readable := [] }
  | decided {skipped rest : List Arrival} {arrival : Arrival} {text : List Char}
      (readable : stream.readable = skipped ++ arrival :: rest)
      (passed : ∀ arrival ∈ skipped, codec.PassesOver arrival)
      (brought : arrival.outcome = .line text)
      (decisive : codec.IsDecisive (Text.trim text)) :
      Received codec stream (.decided (Text.trim text)) { stream with readable := rest }
  | broken {skipped rest : List Arrival} {arrival : Arrival} {error : IoError}
      (readable : stream.readable = skipped ++ arrival :: rest)
      (passed : ∀ arrival ∈ skipped, codec.PassesOver arrival)
      (brought : arrival.outcome = .failed error)
      (lost : error.isReadTimeout = false) :
      Received codec stream (.broken error)
        (Scripted.receive { stream with readable := rest } arrival).stream

/-- What an attempt brings that writes `octets`. -/
inductive Attempted (codec : Codec) (octets : List UInt8) (stream : Scripted) :
    Reception → Scripted → Prop where
  | unwritten (gone : stream.connected = false) :
      Attempted codec octets stream (.broken Scripted.unplugged) stream
  /-- The write releases the next batch, and the reply is waited for. -/
  | written {reception : Reception} {finish : Scripted}
      (connected : stream.connected = true)
      (received : Received codec (stream.write octets).stream reception finish) :
      Attempted codec octets stream reception finish

/-- What several attempts bring, one after the other. -/
inductive Attempts (codec : Codec) (octets : List UInt8) :
    Scripted → List Reception → Scripted → Prop where
  | none {stream : Scripted} : Attempts codec octets stream [] stream
  | next {first second third : Scripted} {reception : Reception} {receptions : List Reception}
      (attempted : Attempted codec octets first reception second)
      (others : Attempts codec octets second receptions third) :
      Attempts codec octets first (reception :: receptions) third

/-- A line that is skipped comes before the others. -/
theorem Received.skip
    {codec : Codec}
    {stream finish : Scripted}
    {arrival : Arrival}
    {rest : List Arrival}
    {reception : Reception}
    (readable : stream.readable = arrival :: rest)
    (passes : codec.PassesOver arrival)
    (received : Received codec { stream with readable := rest } reception finish) :
    Received codec stream reception finish := by
  cases received with
  | silent passed =>
    refine .silent ?_
    intro other member
    rw [readable] at member
    rcases List.mem_cons.mp member with rfl | later
    · exact passes
    · exact passed other later
  | @decided skipped left decisive text split passed brought decided =>
    have longer : stream.readable = (arrival :: skipped) ++ decisive :: left := by
      rw [readable, show rest = _ from split]
      rfl
    exact .decided longer (List.forall_mem_cons.mpr ⟨passes, passed⟩) brought decided
  | @broken skipped left failing error split passed brought lost =>
    have longer : stream.readable = (arrival :: skipped) ++ failing :: left := by
      rw [readable, show rest = _ from split]
      rfl
    exact .broken longer (List.forall_mem_cons.mpr ⟨passes, passed⟩) brought lost

/-! ### Reading a scripted stream -/

namespace Scripted

/-- Reading an arrival leaves the stream as it is, unless it takes the device away. -/
theorem stream_receive
    (stream : Scripted)
    {arrival : Arrival}
    (there : arrival.outcome ≠ .failed unplugged) :
    (stream.receive arrival).stream = stream := by
  rcases arrival with text | ⟨event, text⟩
  · rfl
  · cases event with
    | unplug => exact (there rfl).elim
    | _ => rfl

/-- Whether no time passes while the arrivals of a stream are read. -/
def IsTimely (stream : Scripted) : Prop :=
  ∀ arrival ∈ stream.readable ++ stream.script.flatten, ∀ text, arrival ≠ .event .timeout text

theorem IsTimely.mono
    {first second : Scripted}
    (timely : first.IsTimely)
    (fewer : second.readable ++ second.script.flatten ⊆
      first.readable ++ first.script.flatten) :
    second.IsTimely :=
  fun arrival member => timely arrival (fewer member)

theorem lapse_receive
    (stream : Scripted)
    {arrival : Arrival}
    (timely : ∀ text, arrival ≠ .event .timeout text) :
    (stream.receive arrival).lapse = .none ∨ (stream.receive arrival).lapse = .pastDeadline := by
  rcases arrival with text | ⟨event, text⟩
  · exact Or.inl rfl
  · cases event with
    | timeout => exact (timely text rfl).elim
    | deadline => exact Or.inr rfl
    | _ => exact Or.inl rfl

@[simp]
theorem script_receive (stream : Scripted) (arrival : Arrival) :
    (stream.receive arrival).stream.script = stream.script := by
  rcases arrival with text | ⟨event, text⟩
  · rfl
  · cases event <;> rfl

theorem IsTimely.write
    {stream : Scripted}
    (timely : stream.IsTimely)
    (octets : List UInt8) :
    (stream.write octets).stream.IsTimely := by
  cases connected : stream.connected with
  | false => rwa [write_of_gone connected]
  | true =>
    rw [write_of_connected connected]
    apply timely.mono
    cases script : stream.script <;> simp

/-- A connected stream is quiet only when nothing can be read. -/
theorem readable_eq_nil_of_quiet
    {stream : Scripted}
    (connected : stream.connected = true)
    (silent : stream.readLine.outcome = .quiet) :
    stream.readable = [] := by
  cases readable : stream.readable with
  | nil => rfl
  | cons arrival rest =>
    rw [readLine_of_readable_eq_cons connected readable, outcome_receive] at silent
    exact absurd silent arrival.outcome_ne_quiet

/-- A connected stream that is not quiet has something that can be read. -/
theorem exists_readable_eq_cons
    {stream : Scripted}
    (connected : stream.connected = true)
    (loud : stream.readLine.outcome ≠ .quiet) :
    ∃ arrival rest, stream.readable = arrival :: rest := by
  cases readable : stream.readable with
  | nil => simp [readLine, connected, readable] at loud
  | cons arrival rest => exact ⟨arrival, rest, rfl⟩

end Scripted

namespace Session

/-! ### An attempt without limits -/

@[simp]
theorem exceeded?_none (started : Nat) (clock : Clock) :
    Limits.none.exceeded? started clock = none :=
  rfl

theorem now_clockAfterRead
    {waiting : Waiting}
    (unlimited : waiting.limits = .none)
    {stream : Scripted}
    {arrival : Arrival}
    {rest : List Arrival}
    (connected : stream.connected = true)
    (readable : stream.readable = arrival :: rest)
    (timely : ∀ text, arrival ≠ .event .timeout text)
    (clock : Clock) :
    (waiting.clockAfterRead stream clock).now = clock.now := by
  have read : ByteStream.readLine stream =
      Scripted.receive { stream with readable := rest } arrival :=
    Scripted.readLine_of_readable_eq_cons connected readable
  have passed : clock.pass (ByteStream.readLine stream).lapse (some waiting.replyEnd)
      waiting.limits.deadline = clock := by
    rw [read, unlimited]
    rcases Scripted.lapse_receive { stream with readable := rest } timely with none | past
    · rw [none]
      rfl
    · rw [past]
      rfl
  simp only [Waiting.clockAfterRead, Response.clockAfter, passed]
  split
  · exact Clock.now_cancel clock
  · rfl

/-- A reply that is accepted concludes the attempt as its status tells. -/
theorem concludes_of_accepts
    {codec : Codec}
    {line : List Char}
    {reply : Reply}
    (accepted : codec.Accepts line reply) :
    Reception.Concludes codec (.decided line) (Ending.awaited (.reply reply)).result? := by
  by_cases zero : reply.status = 0
  · simp only [Ending.result?, StatusClass.ofStatus, if_pos zero]
    exact .success accepted zero
  · by_cases negative : reply.status < 0
    · simp only [Ending.result?, StatusClass.ofStatus, if_neg zero, if_pos negative]
      exact ⟨reply, accepted.1, Or.inr negative⟩
    · simp only [Ending.result?, StatusClass.ofStatus, if_neg zero, if_neg negative]
      exact .refusal accepted
        (Int32.lt_of_le_of_ne (Int32.not_lt.mp negative) (Ne.symm zero))

/-- A line that is not skipped is decisive, and it concludes the attempt. -/
theorem concludes_of_endedBy?_eq_some
    {waiting : Waiting}
    {text : List Char}
    {awaited : Awaited}
    (ended : waiting.endedBy? (.line text) = some awaited) :
    waiting.codec.IsDecisive (Text.trim text) ∧
      Reception.Concludes waiting.codec (.decided (Text.trim text))
        (Ending.awaited awaited).result? := by
  have judged := waiting.codec.judged (Text.trim text)
  have decisive := (waiting.codec.isDecisive_iff_judge_ne_skipped (Text.trim text)).mpr
  simp only [Waiting.endedBy?] at ended
  generalize waiting.codec.judge (Text.trim text) = verdict at ended judged decisive
  cases judged with
  | unframed _ => simp at ended
  | truncated _ _ => simp at ended
  | foreign _ _ => simp at ended
  | undecodable kind read complete =>
    cases ended
    exact ⟨decisive (by simp), .undecodable read⟩
  | @corrupted reply kind read damaged =>
    cases ended
    exact ⟨decisive (by simp), reply, read, Or.inl damaged⟩
  | answer kind accepted =>
    cases ended
    exact ⟨decisive (by simp), concludes_of_accepts accepted⟩

/-- What ends a wait is a decisive line or a failure. -/
theorem received_of_endedBy?_eq_some
    {waiting : Waiting}
    {stream : Scripted}
    {arrival : Arrival}
    {rest : List Arrival}
    {awaited : Awaited}
    (readable : stream.readable = arrival :: rest)
    (ended : waiting.endedBy? arrival.outcome = some awaited) :
    ∃ reception,
      Received waiting.codec stream reception
        (Scripted.receive { stream with readable := rest } arrival).stream ∧
        reception.Concludes waiting.codec (Ending.awaited awaited).result? := by
  have noneSkipped : ∀ other ∈ ([] : List Arrival), waiting.codec.PassesOver other := by simp
  cases outcome : arrival.outcome with
  | line text =>
    have unchanged : (Scripted.receive { stream with readable := rest } arrival).stream =
        { stream with readable := rest } :=
      Scripted.stream_receive _ (by simp [outcome])
    rw [unchanged]
    rw [outcome] at ended
    rcases concludes_of_endedBy?_eq_some ended with ⟨decisive, concludes⟩
    exact ⟨_, .decided readable noneSkipped outcome decisive, concludes⟩
  | nothing => simp [outcome, Waiting.endedBy?] at ended
  | quiet => exact absurd outcome arrival.outcome_ne_quiet
  | failed error =>
    rw [outcome] at ended
    simp only [Waiting.endedBy?] at ended
    split at ended
    · simp at ended
    next lost =>
      cases ended
      exact ⟨.broken error, .broken readable noneSkipped outcome (by simpa using lost), .broken⟩

/-- What does not end a wait is passed over. -/
theorem passesOver_of_endedBy?_eq_none
    {waiting : Waiting}
    {arrival : Arrival}
    (missing : waiting.endedBy? arrival.outcome = none) :
    waiting.codec.PassesOver arrival ∧ arrival.outcome ≠ .failed Scripted.unplugged := by
  rw [Codec.PassesOver]
  cases outcome : arrival.outcome with
  | line text =>
    refine ⟨?_, by simp⟩
    intro decisive
    have loud := (waiting.codec.isDecisive_iff_judge_ne_skipped (Text.trim text)).mp decisive
    rw [outcome] at missing
    simp only [Waiting.endedBy?] at missing
    cases verdict : waiting.codec.judge (Text.trim text) <;> simp_all
  | nothing => exact ⟨trivial, by simp⟩
  | quiet => exact ⟨trivial, by simp⟩
  | failed error =>
    rw [outcome] at missing
    have retried : error.isReadTimeout = true := by
      simpa [Waiting.endedBy?] using missing
    refine ⟨retried, ?_⟩
    rintro same
    cases same
    simp [IoError.isReadTimeout, Scripted.unplugged] at retried

theorem endedBy?_eq_none_of_passesOver
    {waiting : Waiting}
    {arrival : Arrival}
    (passes : waiting.codec.PassesOver arrival) :
    waiting.endedBy? arrival.outcome = none := by
  rw [Codec.PassesOver] at passes
  cases outcome : arrival.outcome with
  | line text =>
    rw [outcome] at passes
    have skipped : waiting.codec.judge (Text.trim text) = .skipped := by
      refine Decidable.byContradiction fun loud => passes ?_
      exact (waiting.codec.isDecisive_iff_judge_ne_skipped (Text.trim text)).mpr loud
    simp [Waiting.endedBy?, skipped]
  | nothing => rfl
  | quiet => rfl
  | failed error =>
    rw [outcome] at passes
    have retried : error.isReadTimeout = true := passes
    simp [Waiting.endedBy?, retried]

/-- Waiting without limits reads up to the first decisive line. -/
theorem received_awaitReply
    (waiting : Waiting)
    (unlimited : waiting.limits = .none)
    (stream : Scripted)
    (clock : Clock)
    (connected : stream.connected = true)
    (timely : stream.IsTimely)
    (inTime : clock.now ≤ waiting.replyEnd) :
    ∃ reception,
      Received waiting.codec stream reception (awaitReply waiting stream clock).stream ∧
        reception.Concludes waiting.codec
          (Ending.awaited (awaitReply waiting stream clock).awaited).result? := by
  revert connected timely inTime
  refine awaitReply_induction waiting
    (motive := fun stream clock waited =>
      stream.connected = true → stream.IsTimely → clock.now ≤ waiting.replyEnd →
        ∃ reception, Received waiting.codec stream reception waited.stream ∧
          reception.Concludes waiting.codec (Ending.awaited waited.awaited).result?)
    ?closed ?quiet ?ended ?passed stream clock
  case closed =>
    intro stream clock closed connected timely inTime
    refine (closed ⟨?_, inTime⟩).elim
    rw [unlimited]
    rfl
  case quiet =>
    intro stream clock isOpen silent connected timely inTime
    have empty := Scripted.readable_eq_nil_of_quiet connected silent
    have same : (ByteStream.readLine stream).stream = { stream with readable := [] } := by
      show stream.readLine.stream = _
      rcases stream with ⟨script, readable, written, discarded, _, failsDiscard, keepsInput⟩
      cases connected
      cases empty
      rfl
    refine ⟨.silent, same ▸ .silent (by simp [empty]), ?_⟩
    simp [Waiting.expired, unlimited, Ending.result?, Reception.Concludes, Reception.IsTransient]
  case ended =>
    intro stream clock awaited isOpen loud ended connected timely inTime
    rcases Scripted.exists_readable_eq_cons connected loud with ⟨arrival, rest, readable⟩
    have read : ByteStream.readLine stream = _ :=
      Scripted.readLine_of_readable_eq_cons connected readable
    rw [read, Scripted.outcome_receive] at ended
    rw [read]
    exact received_of_endedBy?_eq_some readable ended
  case passed =>
    intro stream clock waited isOpen loud missing induction connected timely inTime
    rcases Scripted.exists_readable_eq_cons connected loud with ⟨arrival, rest, readable⟩
    have read : ByteStream.readLine stream = _ :=
      Scripted.readLine_of_readable_eq_cons connected readable
    rw [read, Scripted.outcome_receive] at missing
    rcases passesOver_of_endedBy?_eq_none missing with ⟨passes, there⟩
    rw [read, Scripted.stream_receive _ there,
      now_clockAfterRead unlimited connected readable (timely arrival (by simp [readable]))]
      at induction
    have timelyRest : Scripted.IsTimely { stream with readable := rest } :=
      timely.mono (by simp [readable])
    rcases induction connected timelyRest inTime with ⟨reception, received, concludes⟩
    exact ⟨reception, received.skip readable passes, concludes⟩

theorem isTimely_of_received
    {codec : Codec}
    {stream finish : Scripted}
    {reception : Reception}
    (received : Received codec stream reception finish)
    (timely : stream.IsTimely) :
    finish.IsTimely := by
  apply timely.mono
  cases received with
  | silent _ => simp
  | decided readable _ _ _ => simp [readable]
  | broken readable _ _ _ => simp [readable]

theorem isTimely_of_attempted
    {codec : Codec}
    {octets : List UInt8}
    {stream finish : Scripted}
    {reception : Reception}
    (attempted : Attempted codec octets stream reception finish)
    (timely : stream.IsTimely) :
    finish.IsTimely := by
  cases attempted with
  | unwritten _ => exact timely
  | written _ received => exact isTimely_of_received received (timely.write octets)

/-- An attempt without limits brings what the stream has for it. -/
theorem attempted_exchange
    (session : Session Scripted)
    (frame : List Char)
    (started : Nat)
    (clock : Clock)
    (timely : session.stream.IsTimely) :
    ∃ reception,
      Attempted session.codec (Text.Utf8.encode frame) session.stream reception
          (session.exchange frame .none started clock).stream ∧
        reception.Concludes session.codec
          (session.exchange frame .none started clock).ending.result? := by
  have write : ByteStream.write (Text.Utf8.encode frame) session.stream =
      session.stream.write (Text.Utf8.encode frame) :=
    rfl
  rw [exchange]
  cases connected : session.stream.connected with
  | false =>
    simp only [write, Scripted.write_of_gone connected]
    exact ⟨.broken Scripted.unplugged, .unwritten connected, .broken⟩
  | true =>
    have later := timely.write (Text.Utf8.encode frame)
    have outcome := congrArg Response.outcome
      (Scripted.write_of_connected connected (Text.Utf8.encode frame))
    have there : (session.stream.write (Text.Utf8.encode frame)).stream.connected = true := by
      rw [Scripted.write_of_connected connected]
      exact connected
    simp only [write, outcome]
    rcases received_awaitReply
      (session.waitingFor .none started _) rfl _ _ there later (Nat.le_add_right _ _) with
        ⟨reception, received, concludes⟩
    exact ⟨reception, .written connected received, concludes⟩

end Session

end RoverLink
