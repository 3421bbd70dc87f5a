import RoverLink.Proofs.Session.Reception

/-!
# The result of a request

A request without limits is sent until an attempt brings something that is not
transient, or until no attempt is left.  The last attempt decides the result.
Each attempt writes the same octets once, so the number of writes is the number
of attempts (`outcome_send`).
-/

namespace RoverLink

/--
The result of a request after what its attempts brought, when it goes on after
`done` attempts of those that are allowed.
-/
structure Outcome
    (codec : Codec)
    (frame : List Char)
    (allowed done : Nat)
    (receptions : List Reception)
    (last : Reception)
    (result : Except Error Reply) :
    Prop where
  /-- All attempts but the last ask for another one. -/
  transient : ∀ reception ∈ receptions, reception.IsTransient codec
  /-- No more attempts are made than are allowed. -/
  within : receptions.length + done < allowed
  /-- The last attempt gives the result if it does not ask for another one. -/
  settled : ¬ last.IsTransient codec → last.Settles codec result
  /-- Otherwise it was the last one that is allowed. -/
  exhausted : last.IsTransient codec →
    receptions.length + done + 1 = allowed ∧
      result = .error (.retriesExhausted (Session.requestText frame) allowed)

/-- How many commands a result completes. -/
def completedBy : Except Error Reply → Nat
  | .ok _ => 1
  | .error _ => 0

theorem Ending.completed_eq
    {ending : Ending}
    {result : Except Error Reply}
    (settled : ending.result? = some result) :
    ending.completed = completedBy result := by
  simp only [completed, completedBy]
  cases result <;> simp [settled]

theorem Ending.completed_eq_zero
    {ending : Ending}
    (unsettled : ending.result? = none) :
    ending.completed = 0 := by
  simp [completed, unsettled]

namespace Session

/-- Without limits a pause comes to its end. -/
theorem exists_pause_eq_some
    (policy : RetryPolicy)
    (attempts : Nat)
    (clock : Clock) :
    ∃ later, pause policy .none attempts clock = some later := by
  unfold pause
  simp only
  split
  · exact ⟨_, rfl⟩
  · exact ⟨_, rfl⟩

/-- Without limits a request stops only when no attempt is left. -/
theorem of_resumption_eq_error
    {frame : List Char}
    {started : Nat}
    {policy : RetryPolicy}
    {done : Nat}
    {clock later : Clock}
    {error : Error}
    (stopped : resumption frame .none started policy done clock = (.error error, later)) :
    policy.maxAttempts ≤ done ∧ error = .retriesExhausted (requestText frame) done := by
  have ways := resumption_cases frame .none started policy done clock
  rw [stopped] at ways
  rcases exists_pause_eq_some policy done clock with ⟨finish, pauses⟩
  cases ways with
  | exhausted spent => exact ⟨spent, rfl⟩
  | unnamed _ endless => simp [pauses] at endless
  | limited _ _ excess =>
    exact (Limits.exceeded?_eq_none_iff.mp (exceeded?_none started later) excess.isReached).elim

/-- The attempts of a request, and its result. -/
theorem outcome_sendFrame
    (frame : List Char)
    (started : Nat)
    (policy : RetryPolicy)
    (done : Nat)
    (session : Session Scripted)
    (clock : Clock)
    (left : done < max 1 policy.maxAttempts)
    (timely : session.stream.IsTimely) :
    ∃ receptions last,
      Attempts session.codec (Text.Utf8.encode frame) session.stream (receptions ++ [last])
          (sendFrame frame .none started policy done session clock).state.stream ∧
        Outcome session.codec frame (max 1 policy.maxAttempts) done receptions last
          (sendFrame frame .none started policy done session clock).result ∧
        (endings frame .none started policy done session clock).length =
          receptions.length + 1 ∧
        (sendFrame frame .none started policy done session clock).state.commandsSent =
          session.commandsSent +
            completedBy (sendFrame frame .none started policy done session clock).result := by
  revert left timely
  refine sendFrame_induction frame .none started policy
    (motive := fun done session _ step ended =>
      done < max 1 policy.maxAttempts → session.stream.IsTimely →
        ∃ receptions last,
          Attempts session.codec (Text.Utf8.encode frame) session.stream
              (receptions ++ [last]) step.state.stream ∧
            Outcome session.codec frame (max 1 policy.maxAttempts) done receptions last
              step.result ∧
            ended.length = receptions.length + 1 ∧
            step.state.commandsSent = session.commandsSent + completedBy step.result)
    ?settled ?stopped ?resumed done session clock
  case settled =>
    intro done session clock result settled left timely
    rcases attempted_exchange session frame started clock timely with
        ⟨reception, attempted, concludes⟩
    rw [settled] at concludes
    have final := Reception.Settles.not_isTransient concludes
    refine ⟨[], reception, .next attempted .none, ?_, rfl, ?_⟩
    · exact ⟨by simp, by simpa using left, fun _ => concludes, fun again => (final again).elim⟩
    · simp [conclude, Ending.completed_eq settled]
  case stopped =>
    intro done session clock error later unsettled stopped left timely
    rcases attempted_exchange session frame started clock timely with
        ⟨reception, attempted, concludes⟩
    rw [unsettled] at concludes
    rcases of_resumption_eq_error stopped with ⟨spent, rfl⟩
    have last : done + 1 = max 1 policy.maxAttempts := by omega
    refine ⟨[], reception, .next attempted .none, ?_, rfl, ?_⟩
    · refine ⟨by simp, by simpa using left, fun final => (final concludes).elim, fun _ => ?_⟩
      simp [last]
    · simp [conclude, Ending.completed_eq_zero unsettled, completedBy]
  case resumed =>
    intro done session clock later step rest unsettled resumed induction left timely
    rcases attempted_exchange session frame started clock timely with
        ⟨reception, attempted, concludes⟩
    rw [unsettled] at concludes
    have remaining : done + 1 < policy.maxAttempts :=
      canRetry_of_resumption_eq_ok (congrArg Prod.fst resumed)
    rcases induction (by omega) (isTimely_of_attempted attempted timely) with
        ⟨receptions, last, others, outcome, count, completed⟩
    have length : (reception :: receptions).length + done = receptions.length + (done + 1) := by
      rw [List.length_cons]
      omega
    refine ⟨reception :: receptions, last, .next attempted others, ?_, by simp [count], ?_⟩
    · refine ⟨?_, length ▸ outcome.within, outcome.settled, ?_⟩
      · exact List.forall_mem_cons.mpr ⟨concludes, outcome.transient⟩
      · exact length ▸ outcome.exhausted
    · rw [completed]
      simp [conclude, Ending.completed_eq_zero unsettled]

/-! ### A whole request -/

/-- Numbering a request and dropping stale input do not depend on each other. -/
theorem dropStale_numbered
    {Stream : Type}
    [ByteStream Stream]
    (session : Session Stream)
    (command : Command) :
    (session.numbered command).dropStale =
      (session.dropStale.1, session.dropStale.2.numbered command) := by
  unfold dropStale numbered
  simp only
  split
  · cases (ByteStream.discardInput session.stream).1 <;> rfl
  · rfl

theorem isTimely_dropStale
    {session : Session Scripted}
    (timely : session.stream.IsTimely) :
    session.dropStale.2.stream.IsTimely := by
  have dropped : (ByteStream.discardInput session.stream).2.IsTimely := by
    apply timely.mono
    show session.stream.discardInput.2.readable ++
      session.stream.discardInput.2.script.flatten ⊆ _
    rw [Scripted.discardInput]
    split
    · simp
    · split <;> simp
  rw [dropStale]
  split
  · simp only
    split
    · exact dropped
    · exact dropped
  · exact timely

theorem dropStale_codec
    {Stream : Type}
    [ByteStream Stream]
    (session : Session Stream) :
    session.dropStale.2.codec = session.codec ∧ session.dropStale.2.config = session.config ∧
      session.dropStale.2.commandsSent = session.commandsSent := by
  rw [dropStale]
  split
  · simp only
    split <;> exact ⟨rfl, rfl, rfl⟩
  · exact ⟨rfl, rfl, rfl⟩

/-- A request writes once for each of its attempts, and always the same octets. -/
theorem written_send
    {Stream : Type}
    [BufferedStream Stream]
    (session : Session Stream)
    (command : Command)
    (clock : Clock) :
    ((session.mapStream Traced.start).send command clock).state.stream.operations.filterMap
        Operation.written? =
      List.replicate (session.attempts command .none clock).length
        (Text.Utf8.encode (session.codec.encode command).1) := by
  rcases course_sendWithin (session.mapStream Traced.start) command .none clock with
      ⟨operations, course⟩
  have tries : session.attempts command .none clock =
      (session.mapStream Traced.start).attempts command .none clock :=
    attempts_map Traced.forget (session.mapStream Traced.start) command .none clock
  rw [tries, send, course.operations_eq, List.filterMap_append, course.written]
  rfl

/--
Sending without limits makes attempts up to the first that is not transient, or
as many as are allowed, and writes the same octets once for each.  The last one
decides the result.
-/
theorem outcome_send
    (session : Session Scripted)
    (command : Command)
    (clock : Clock)
    (dropped : session.dropStale.1 = .ok ())
    (timely : session.stream.IsTimely) :
    ∃ receptions last,
      Attempts (session.codec.encode command).2
          (Text.Utf8.encode (session.codec.encode command).1)
          session.dropStale.2.stream (receptions ++ [last])
          (session.send command clock).state.stream ∧
        Outcome (session.codec.encode command).2 (session.codec.encode command).1
          (max 1 session.config.retry.maxAttempts) 0 receptions last
          (session.send command clock).result ∧
        ((session.mapStream Traced.start).send command clock).state.stream.operations.filterMap
            Operation.written? =
          List.replicate (receptions.length + 1)
            (Text.Utf8.encode (session.codec.encode command).1) ∧
        (session.send command clock).state.commandsSent =
          session.commandsSent + completedBy (session.send command clock).result := by
  have cleared : (session.numbered command).dropStale.1 = .ok () := by
    rw [dropStale_numbered, dropped]
  rcases sendWithin_of_dropped session command
    (exceeded?_none clock.now clock) cleared with ⟨sends, tries⟩
  have sends : session.send command clock = _ := sends
  rcases session.dropStale_codec with ⟨codec, config, commandsSent⟩
  rcases outcome_sendFrame (session.codec.encode command).1 clock.now session.config.retry 0
      (session.dropStale.2.numbered command) clock (by omega) (isTimely_dropStale timely) with
      ⟨receptions, last, attempts, outcome, count, completed⟩
  have numbered : (session.dropStale.2.numbered command).codec =
      (session.codec.encode command).2 := by
    rw [Session.numbered, codec]
  rw [numbered] at attempts outcome
  rw [dropStale_numbered] at sends tries
  refine ⟨receptions, last, ?_, ?_, ?_, ?_⟩
  · rw [sends]
    exact attempts
  · rw [sends]
    exact outcome
  · rw [written_send, tries, count]
  · rw [sends, completed]
    exact congrArg (· + _) commandsSent

/-- A device that asks for a second attempt and then reports success. -/
def hesitant : Session Scripted :=
  .new
    ((Scripted.empty.reply [.line ['#', '[', '-', '1', ']']]).reply
      [.line ['#', '[', '0', ']']])
    ⟨.withoutBackoff 5, .ofMilliseconds 1000, .placeholder⟩

theorem isTimely_hesitant : hesitant.stream.IsTimely := by
  intro arrival member text
  have lines : arrival = .line ['#', '[', '-', '1', ']'] ∨
      arrival = .line ['#', '[', '0', ']'] := by
    simpa [hesitant, Session.new, Scripted.empty, Scripted.reply] using member
  rcases lines with rfl | rfl <;> simp

/-- Sending to this device has an outcome. -/
theorem exists_outcome_send_hesitant :
    hesitant.dropStale.1 = .ok () ∧ hesitant.stream.IsTimely ∧
      ∃ receptions last,
        Outcome hesitant.codec (Request.plain (.query 'e' (by decide))) 5 0 receptions last
          (hesitant.send (.query 'e' (by decide)) .start).result := by
  rcases outcome_send hesitant (.query 'e' (by decide)) .start rfl isTimely_hesitant with
      ⟨receptions, last, _, outcome, _⟩
  exact ⟨rfl, isTimely_hesitant, receptions, last, outcome⟩

end Session

end RoverLink
