import RoverLink.Proofs.Codec.Verdict
import RoverLink.Proofs.Session.StreamMap

/-!
# The record of a request

What a session asks of its stream while it sends: waiting only reads, an
attempt writes the request once and then waits, and all attempts of a request
write the same octets.  Input is dropped by `dropStale` alone.

A reply is decoded from the line that was read last, and this line arrived no
earlier than all the lines that could be read when the request began.
-/

namespace RoverLink

/-- Whether a line is a frame that decodes to the reply. -/
def Gives (reply : Reply) (text : List Char) : Prop :=
  LineKind.ofLine (Text.trim text) = .frame ∧ Reply.read (Text.trim text) = .ok reply

theorem gives_of_judge_eq_answer
    {codec : Codec}
    {text : List Char}
    {reply : Reply}
    (judged : codec.judge (Text.trim text) = .answer reply) :
    Gives reply text := by
  rcases Codec.of_judge_eq_answer judged with ⟨kind, accepted⟩
  exact ⟨kind, accepted.1⟩

/-- Whether a line is a frame that decodes. -/
def GivesReply (text : List Char) : Prop :=
  ∃ reply, Gives reply text

instance (text : List Char) : Decidable (GivesReply text) :=
  decidable_of_iff
    (LineKind.ofLine (Text.trim text) = .frame ∧ (Reply.read (Text.trim text)).isOk = true) (by
      simp only [GivesReply, Gives]
      cases Reply.read (Text.trim text) <;> simp [Except.isOk, Except.toBool])

/-- The last operation reads the line, of the given origin, from which the reply was decoded. -/
def EndsWithReply (operations : List Operation) (reply : Reply) (origin : Nat) : Prop :=
  ∃ text, operations.getLast? = some (.read (.line text) origin) ∧ Gives reply text

theorem EndsWithReply.append
    {operations : List Operation}
    {reply : Reply}
    {origin : Nat}
    (ends : EndsWithReply operations reply origin)
    (earlier : List Operation) :
    EndsWithReply (earlier ++ operations) reply origin := by
  rcases ends with ⟨text, last, gives⟩
  exact ⟨text, by simp [List.getLast?_append, last], gives⟩

namespace Session

variable {Stream : Type} [BufferedStream Stream]

/-- Waiting reads, and nothing else; a reply is in the line that was read last. -/
theorem record_awaitReply
    (waiting : Waiting)
    (traced : Traced Stream)
    (clock : Clock) :
    ∃ operations,
      traced.Traffic operations (awaitReply waiting traced clock).stream ∧
        operations.filterMap Operation.written? = [] ∧
        ∀ reply, (awaitReply waiting traced clock).awaited = .reply reply →
          ∃ origin, EndsWithReply operations reply origin ∧
            ∀ place, traced.Since GivesReply place → place ≤ origin := by
  refine awaitReply_induction waiting
    (motive := fun traced _ waited =>
      ∃ operations,
        traced.Traffic operations waited.stream ∧
          operations.filterMap Operation.written? = [] ∧
          ∀ reply, waited.awaited = .reply reply →
            ∃ origin, EndsWithReply operations reply origin ∧
              ∀ place, traced.Since GivesReply place → place ≤ origin)
    ?closed ?quiet ?ended ?passed traced clock
  case closed =>
    intro traced clock _
    exact ⟨[], .none, rfl, fun reply answered =>
      (waiting.expired_ne_reply clock reply answered).elim⟩
  case quiet =>
    intro traced clock _ _
    exact ⟨[_], Traced.Traffic.none.read, rfl, fun reply answered =>
      (waiting.expired_ne_reply _ reply answered).elim⟩
  case ended =>
    intro traced clock awaited _ _ found
    refine ⟨[_], Traced.Traffic.none.read, rfl, ?_⟩
    intro reply answered
    have answered : awaited = .reply reply := answered
    subst answered
    rcases Waiting.line_of_endedBy?_eq_reply found with ⟨text, outcome, judged⟩
    have gives := gives_of_judge_eq_answer judged
    refine ⟨traced.nextOrigin, ⟨text, ?_, gives⟩, ?_⟩
    · exact congrArg (fun outcome => some (Operation.read outcome traced.nextOrigin)) outcome
    · intro place since
      exact since.le_nextOrigin outcome ⟨reply, gives⟩
  case passed =>
    intro traced clock waited _ _ _ induction
    rcases induction with ⟨operations, traffic, unwritten, answer⟩
    refine ⟨_ :: operations, Traced.Traffic.none.read.trans traffic, unwritten, ?_⟩
    intro reply answered
    rcases answer reply answered with ⟨origin, ends, recent⟩
    refine ⟨origin, ends.append [_], ?_⟩
    intro place since
    exact recent place (since.readLine)

/-- An attempt writes its request once and then waits. -/
theorem record_exchange
    (session : Session (Traced Stream))
    (frame : List Char)
    (limits : Limits)
    (started : Nat)
    (clock : Clock) :
    ∃ operations,
      session.stream.Traffic operations (session.exchange frame limits started clock).stream ∧
        operations.filterMap Operation.written? = [Text.Utf8.encode frame] ∧
        ∀ reply, (session.exchange frame limits started clock).ending = .awaited (.reply reply) →
          ∃ origin, EndsWithReply operations reply origin ∧
            ∀ place, session.stream.Since GivesReply place → place ≤ origin := by
  have traffic : session.stream.Traffic _ _ :=
    Traced.Traffic.none.write (Text.Utf8.encode frame)
  rw [exchange]
  simp only
  split
  next error failed => exact ⟨_, traffic, rfl, by simp⟩
  next sent =>
    generalize Response.clockAfter _ _ _ clock = after
    rcases record_awaitReply
      (session.waitingFor limits started after.now)
      (ByteStream.write (Text.Utf8.encode frame) session.stream).stream after with
        ⟨operations, reading, unwritten, answer⟩
    refine ⟨_, traffic.trans reading, ?_, ?_⟩
    · rw [List.filterMap_append, unwritten]
      rfl
    · intro reply answered
      rcases answer reply (by simpa using answered) with ⟨origin, ends, recent⟩
      refine ⟨origin, ends.append _, ?_⟩
      intro place since
      exact recent place (since.write _)

/-- All attempts of a request write the same octets, one time each. -/
theorem record_sendFrame
    (frame : List Char)
    (limits : Limits)
    (started : Nat)
    (policy : RetryPolicy)
    (done : Nat)
    (session : Session (Traced Stream))
    (clock : Clock) :
    ∃ operations,
      session.stream.Traffic operations
          (sendFrame frame limits started policy done session clock).state.stream ∧
        operations.filterMap Operation.written? =
          List.replicate (endings frame limits started policy done session clock).length
            (Text.Utf8.encode frame) ∧
        ∀ reply,
          (sendFrame frame limits started policy done session clock).result = .ok reply →
            ∃ origin, EndsWithReply operations reply origin ∧
              ∀ place, session.stream.Since GivesReply place → place ≤ origin := by
  refine sendFrame_induction frame limits started policy
    (motive := fun _ session _ step ended =>
      ∃ operations,
        session.stream.Traffic operations step.state.stream ∧
          operations.filterMap Operation.written? =
            List.replicate ended.length (Text.Utf8.encode frame) ∧
          ∀ reply, step.result = .ok reply →
            ∃ origin, EndsWithReply operations reply origin ∧
              ∀ place, session.stream.Since GivesReply place → place ≤ origin)
    ?settled ?stopped ?resumed done session clock
  case settled =>
    intro done session clock result settled
    rcases record_exchange session frame limits started clock with
        ⟨operations, traffic, written, answer⟩
    refine ⟨operations, traffic, written, ?_⟩
    intro reply answered
    have answered : result = .ok reply := answered
    subst answered
    exact answer reply (Ending.eq_of_result?_eq_ok settled).1
  case stopped =>
    intro done session clock error later _ _
    rcases record_exchange session frame limits started clock with ⟨operations, traffic, written, _⟩
    exact ⟨operations, traffic, written, by simp⟩
  case resumed =>
    intro done session clock later step rest _ _ induction
    rcases record_exchange session frame limits started clock with ⟨first, traffic, written, _⟩
    rcases induction with ⟨others, further, repeated, answer⟩
    refine ⟨first ++ others, traffic.trans further, ?_, ?_⟩
    · rw [List.filterMap_append, written, repeated, List.length_cons, List.replicate_succ]
      rfl
    · intro reply answered
      rcases answer reply answered with ⟨origin, ends, recent⟩
      refine ⟨origin, ends.append first, ?_⟩
      intro place since
      exact recent place (traffic.since since)

/-! ### The courses that a call can take -/

/--
What a call does once its input is free of stale lines: it writes the same
octets once for each attempt, and a reply is in the line that it read last.
-/
structure Sent
    (octets : List UInt8)
    (start : Traced Stream)
    (operations : List Operation)
    (attempts : List Ending)
    (step : Step (Session (Traced Stream)) Reply) :
    Prop where
  traffic : start.Traffic operations step.state.stream
  written : operations.filterMap Operation.written? = List.replicate attempts.length octets
  /-- A reply is decoded from the last line. -/
  answer : ∀ reply, step.result = .ok reply →
    ∃ origin, EndsWithReply operations reply origin ∧
      ∀ place, start.Since GivesReply place → place ≤ origin
  /-- The input is stale if an attempt was given up. -/
  staleInput : step.state.staleInput = attempts.any Ending.isAbandoned

/-- The courses of a call that writes `octets`, by what its limits say at its start. -/
inductive Course (session : Session (Traced Stream)) (octets : List UInt8) :
    Option Error → List Operation → List Ending → Step (Session (Traced Stream)) Reply → Prop where
  /-- The limits refuse the call, and nothing is asked of the stream. -/
  | refused {step : Step (Session (Traced Stream)) Reply} {error : Error}
      (result : step.result = .error error)
      (stream : step.state.stream = session.stream)
      (staleInput : step.state.staleInput = session.staleInput) :
      Course session octets (some error) [] [] step
  /-- The input is stale and cannot be dropped. -/
  | undropped {step : Step (Session (Traced Stream)) Reply} {error : IoError}
      (stale : session.staleInput = true)
      (failed : session.stream.discardInput.1 = .error error)
      (result : step.result = .error (.linkLost error.message))
      (stream : step.state.stream = session.stream.discardInput.2)
      (staleInput : step.state.staleInput = true) :
      Course session octets none [.discard (.error error)] [] step
  /-- The input is stale and is dropped before the first attempt. -/
  | dropped {step : Step (Session (Traced Stream)) Reply}
      {operations : List Operation} {attempts : List Ending}
      (stale : session.staleInput = true)
      (succeeded : session.stream.discardInput.1 = .ok ())
      (sent : Sent octets session.stream.discardInput.2 operations attempts step) :
      Course session octets none (.discard (.ok ()) :: operations) attempts step
  /-- The input is not stale and is kept. -/
  | kept {step : Step (Session (Traced Stream)) Reply}
      {operations : List Operation} {attempts : List Ending}
      (fresh : session.staleInput = false)
      (sent : Sent octets session.stream operations attempts step) :
      Course session octets none operations attempts step

/-! ### What every course keeps -/

namespace Course

variable {session : Session (Traced Stream)} {octets : List UInt8} {refusal : Option Error}
variable {operations : List Operation} {attempts : List Ending}
variable {step : Step (Session (Traced Stream)) Reply}

theorem operations_eq (course : Course session octets refusal operations attempts step) :
    step.state.stream.operations = session.stream.operations ++ operations := by
  cases course with
  | refused _ stream _ => simp [stream]
  | undropped _ failed _ stream _ => rw [stream, ← failed]; rfl
  | dropped _ succeeded sent =>
    rw [sent.traffic.operations_eq]
    show (session.stream.operations ++ [.discard session.stream.discardInput.1]) ++ _ = _
    rw [succeeded, List.append_assoc]
    rfl
  | kept _ sent => exact sent.traffic.operations_eq

theorem since
    {place : Nat}
    (course : Course session octets refusal operations attempts step)
    (since : session.stream.Since GivesReply place) :
    step.state.stream.Since GivesReply place := by
  cases course with
  | refused _ stream _ => exact stream ▸ since
  | undropped _ _ _ stream _ => exact stream ▸ since.discardInput
  | dropped _ _ sent => exact sent.traffic.since (since.discardInput)
  | kept _ sent => exact sent.traffic.since since

theorem sound
    (course : Course session octets refusal operations attempts step)
    (sound : session.stream.Sound) :
    step.state.stream.Sound := by
  cases course with
  | refused _ stream _ => exact stream ▸ sound
  | undropped _ _ _ stream _ => exact stream ▸ sound.note _ _ _
  | dropped _ _ sent => exact sent.traffic.sound (sound.note _ _ _)
  | kept _ sent => exact sent.traffic.sound sound

/-- Every attempt writes the request one time, and nothing else is written. -/
theorem written (course : Course session octets refusal operations attempts step) :
    operations.filterMap Operation.written? = List.replicate attempts.length octets := by
  cases course with
  | refused _ _ _ => rfl
  | undropped _ _ _ _ _ => rfl
  | dropped _ _ sent => exact sent.written
  | kept _ sent => exact sent.written

/-- The input is stale if it was and was not dropped, or if an attempt was given up. -/
theorem staleInput (course : Course session octets refusal operations attempts step) :
    step.state.staleInput =
      (session.staleInput && !operations.any Operation.drops ||
        attempts.any Ending.isAbandoned) := by
  cases course with
  | refused _ _ staleInput => simp [staleInput]
  | undropped stale _ _ _ staleInput => simp [staleInput, stale, Operation.drops]
  | dropped _ _ sent => simp [sent.staleInput, Operation.drops]
  | kept fresh sent => simp [sent.staleInput, fresh]

/-- A call that its limits admit drops the input if it is stale. -/
theorem any_drops
    (course : Course session octets none operations attempts step)
    (succeeds : session.stream.discardInput.1 = .ok ()) :
    operations.any Operation.drops = session.staleInput := by
  cases course with
  | undropped _ failed _ _ _ => simp [succeeds] at failed
  | dropped stale _ _ => simp [stale, Operation.drops]
  | kept fresh sent => rw [fresh, sent.traffic.any_drops]

theorem of_refused
    {error : Error}
    (course : Course session octets (some error) operations attempts step) :
    operations = [] ∧ attempts = [] ∧ step.result = .error error ∧
      step.state.stream = session.stream := by
  cases course with
  | refused result stream _ => exact ⟨rfl, rfl, result, stream⟩

theorem refusal_eq_none
    {reply : Reply}
    (course : Course session octets refusal operations attempts step)
    (answered : step.result = .ok reply) :
    refusal = none := by
  cases course with
  | refused result _ _ => simp [result] at answered
  | undropped _ _ _ _ _ => rfl
  | dropped _ _ _ => rfl
  | kept _ _ => rfl

/-- Stale input is dropped once, and before anything else. -/
theorem of_stale
    (course : Course session octets none operations attempts step)
    (stale : session.staleInput = true) :
    ∃ rest, operations = .discard session.stream.discardInput.1 :: rest ∧
      ∀ operation ∈ rest, operation.isDiscard = false := by
  cases course with
  | undropped _ failed _ _ _ => exact ⟨[], by rw [failed], by simp⟩
  | dropped _ succeeded sent =>
    exact ⟨_, by rw [succeeded], sent.traffic.isDiscard_eq_false⟩
  | kept fresh _ => simp [stale] at fresh

/-- Other input is not dropped, and each line of it is read in its turn or can still be read. -/
theorem of_fresh
    (course : Course session octets refusal operations attempts step)
    (fresh : session.staleInput = false) :
    (∀ operation ∈ operations, operation.isDiscard = false) ∧
      BufferedStream.lines session.stream.stream <+:
        operations.flatMap Operation.taken ++ BufferedStream.lines step.state.stream.stream := by
  cases course with
  | refused _ stream _ => simp [stream]
  | undropped stale _ _ _ _ => simp [fresh] at stale
  | dropped stale _ _ => simp [fresh] at stale
  | kept _ sent => exact ⟨sent.traffic.isDiscard_eq_false, sent.traffic.lines_prefix⟩

/-- A call that cannot drop stale input ends with this failure. -/
theorem of_undropped
    {error : IoError}
    (course : Course session octets refusal operations attempts step)
    (undropped : Operation.discard (.error error) ∈ operations) :
    operations = [.discard (.error error)] ∧ attempts = [] ∧
      step.result = .error (.linkLost error.message) ∧ step.state.staleInput = true := by
  cases course with
  | refused _ _ _ => simp at undropped
  | undropped _ _ result _ staleInput =>
    cases List.mem_singleton.mp undropped
    exact ⟨rfl, rfl, result, staleInput⟩
  | dropped _ _ sent =>
    rcases List.mem_cons.mp undropped with first | later
    · simp at first
    · exact absurd (sent.traffic.isDiscard_eq_false _ later) (by simp [Operation.isDiscard])
  | kept _ sent =>
    exact absurd (sent.traffic.isDiscard_eq_false _ undropped) (by simp [Operation.isDiscard])

/-- After the input has been dropped for good, all lines that can be read arrived later. -/
theorem since_of_drops
    (course : Course session octets refusal operations attempts step)
    (dropped : operations.any Operation.drops = true)
    (gone : BufferedStream.lines (ByteStream.discardInput session.stream.stream).2 = []) :
    step.state.stream.Since GivesReply session.stream.now ∧
      ∀ reply, step.result = .ok reply →
        ∃ origin, EndsWithReply operations reply origin ∧ session.stream.now ≤ origin := by
  cases course with
  | refused _ _ _ => simp at dropped
  | undropped _ _ _ _ _ => simp [Operation.drops] at dropped
  | dropped _ _ sent =>
    have since := Traced.since_discardInput gone GivesReply
    refine ⟨sent.traffic.since since, ?_⟩
    intro reply answered
    rcases sent.answer reply answered with ⟨origin, ends, recent⟩
    exact ⟨origin, ends.append [_], recent _ since⟩
  | kept _ sent => simp [sent.traffic.any_drops] at dropped

/-- A reply is in a line that arrived with or after the lines that were there at the beginning. -/
theorem answer
    {reply : Reply}
    (course : Course session octets refusal operations attempts step)
    (answered : step.result = .ok reply) :
    ∃ origin, EndsWithReply operations reply origin ∧
      ∀ place, session.stream.Since GivesReply place → place ≤ origin := by
  cases course with
  | refused result _ _ => simp [result] at answered
  | undropped _ _ result _ _ => simp [result] at answered
  | dropped _ _ sent =>
    rcases sent.answer reply answered with ⟨origin, ends, recent⟩
    refine ⟨origin, ends.append [_], ?_⟩
    intro place since
    exact recent place (since.discardInput)
  | kept _ sent => exact sent.answer reply answered

end Course

theorem sent_sendFrame
    (frame : List Char)
    (limits : Limits)
    (started : Nat)
    (policy : RetryPolicy)
    (session : Session (Traced Stream))
    (fresh : session.staleInput = false)
    (clock : Clock) :
    ∃ operations, Sent (Text.Utf8.encode frame) session.stream operations
      (endings frame limits started policy 0 session clock)
      (sendFrame frame limits started policy 0 session clock) := by
  rcases record_sendFrame frame limits started policy 0 session clock with
      ⟨operations, traffic, written, answer⟩
  refine ⟨operations, traffic, written, answer, ?_⟩
  rw [staleInput_sendFrame, fresh, Bool.false_or]

/-- Every call takes one of the courses. -/
theorem course_sendWithin
    (session : Session (Traced Stream))
    (command : Command)
    (limits : Limits)
    (clock : Clock) :
    ∃ operations, Course session (Text.Utf8.encode (session.codec.encode command).1)
      (limits.exceeded? clock.now clock) operations
      (session.attempts command limits clock)
      (session.sendWithin command limits clock) := by
  cases admitted : limits.exceeded? clock.now clock with
  | some error =>
    rcases sendWithin_of_refused session command admitted with ⟨sends, tries⟩
    rw [sends, tries]
    exact ⟨[], .refused rfl rfl rfl⟩
  | none =>
    cases stale : session.staleInput with
    | false =>
      have keeps : (session.numbered command).dropStale =
          (.ok (), session.numbered command) := by
        simp [dropStale, numbered, stale]
      rcases sendWithin_of_dropped session command admitted
        (congrArg Prod.fst keeps) with ⟨sends, tries⟩
      rw [sends, tries, keeps]
      rcases sent_sendFrame (session.codec.encode command).1 limits
        clock.now session.config.retry (session.numbered command) stale clock with
          ⟨operations, sent⟩
      exact ⟨operations, .kept stale sent⟩
    | true =>
      cases succeeded : session.stream.discardInput.1 with
      | error error =>
        have fails : (session.numbered command).dropStale =
            (.error (.linkLost error.message),
              { session.numbered command with stream := session.stream.discardInput.2 }) := by
          have failed : (ByteStream.discardInput session.stream).1 = .error error := succeeded
          simp only [dropStale, numbered, stale, if_true, failed]
          rfl
        rcases sendWithin_of_undropped session command admitted
          (congrArg Prod.fst fails) with ⟨sends, tries⟩
        rw [sends, tries, fails]
        exact ⟨_, .undropped stale succeeded rfl rfl stale⟩
      | ok =>
        have drops : (session.numbered command).dropStale =
            (.ok (), { session.numbered command with
              stream := session.stream.discardInput.2, staleInput := false }) := by
          have done : (ByteStream.discardInput session.stream).1 = .ok () := succeeded
          simp only [dropStale, numbered, stale, if_true, done]
          rfl
        rcases sendWithin_of_dropped session command admitted
          (congrArg Prod.fst drops) with ⟨sends, tries⟩
        rw [sends, tries, drops]
        rcases sent_sendFrame (session.codec.encode command).1 limits
          clock.now session.config.retry
          { session.numbered command with
            stream := session.stream.discardInput.2, staleInput := false } rfl clock with
            ⟨operations, sent⟩
        exact ⟨_, .dropped stale succeeded sent⟩

end Session

end RoverLink
