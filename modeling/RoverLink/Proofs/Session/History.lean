import RoverLink.Proofs.Session.Record

/-!
# Histories of calls

A history is a list of calls on one session.  Each call has its own limits and
clock, and lines may arrive before it.  `conducts` lists what the calls of a
history did, and `sinceDropped` the endings of all attempts since the input was
last dropped.

A session is stale exactly if one of these attempts was given up while its
reply was waited for (`staleInput_after`).  What a call does with stale input
follows from this invariant and from the course that the call takes
(`drops_as_owed`).
-/

namespace RoverLink

/-- A call on a session, and what happens before it. -/
structure Call (Stream : Type) [BufferedStream Stream] where
  /-- What the stream does on its own since the previous call. -/
  meanwhile : Stream → Stream
  /-- It takes no line away. -/
  lines_meanwhile : ∀ stream,
    BufferedStream.lines stream <+: BufferedStream.lines (meanwhile stream)
  command : Command
  limits : Limits
  clock : Clock

/-- A call on a stream that does nothing on its own. -/
def Call.prompt
    {Stream : Type}
    [BufferedStream Stream]
    (command : Command)
    (limits : Limits)
    (clock : Clock) :
    Call Stream :=
  ⟨id, fun _ => List.prefix_refl _, command, limits, clock⟩

/-- Whether the stream does nothing on its own before a call. -/
def Call.IsPrompt {Stream : Type} [BufferedStream Stream] (call : Call Stream) : Prop :=
  call.meanwhile = id

/-- What a call did. -/
structure Conduct where
  /-- Why the limits refused the call at its beginning, if they did. -/
  refusal : Option Error
  operations : List Operation
  attempts : List Ending
  result : Except Error Reply

namespace Conduct

/-- The attempts of a call, behind earlier ones unless the call dropped the input. -/
def addTo (earlier : List Ending) (conduct : Conduct) : List Ending :=
  if conduct.operations.any Operation.drops then
    conduct.attempts
  else
    earlier ++ conduct.attempts

/-- The attempts since the input was last dropped, or else since the beginning. -/
def sinceDropped (conducts : List Conduct) : List Ending :=
  conducts.foldl addTo []

/-- Whether one of these attempts was given up while its reply was waited for. -/
def owesDrop (conducts : List Conduct) : Bool :=
  (sinceDropped conducts).any Ending.isAbandoned

end Conduct

namespace Session

variable {Stream : Type} [BufferedStream Stream]

/-! ### Performing calls -/

/-- The session when a call begins. -/
def opened (session : Session (Traced Stream)) (call : Call Stream) : Session (Traced Stream) :=
  { session with stream := session.stream.idle call.meanwhile }

/-- The step that a call makes. -/
def perform
    (session : Session (Traced Stream))
    (call : Call Stream) :
    Step (Session (Traced Stream)) Reply :=
  (session.opened call).sendWithin call.command call.limits call.clock

/-- What a call does. -/
def conduct (session : Session (Traced Stream)) (call : Call Stream) : Conduct where
  refusal := call.limits.exceeded? call.clock.now call.clock
  operations := (session.perform call).state.stream.operations.drop
    (session.opened call).stream.operations.length
  attempts := (session.opened call).attempts call.command call.limits call.clock
  result := (session.perform call).result

/-- The session after calls. -/
def after (session : Session (Traced Stream)) (calls : List (Call Stream)) :
    Session (Traced Stream) :=
  calls.foldl (fun session call => (session.perform call).state) session

/-- What calls do, one after the other. -/
def conducts (session : Session (Traced Stream)) : List (Call Stream) → List Conduct
  | [] => []
  | call :: calls => session.conduct call :: conducts (session.perform call).state calls

/-- Keeping the record changes nothing about a call. -/
theorem perform_forget
    (session : Session (Traced Stream))
    (call : Call Stream) :
    (session.perform call).within (mapStream Traced.stream) =
      ((session.opened call).mapStream Traced.stream).sendWithin
        call.command call.limits call.clock :=
  (sendWithin_map Traced.forget (session.opened call) _ _ _).symm

@[simp]
theorem conducts_append
    (session : Session (Traced Stream))
    (calls others : List (Call Stream)) :
    session.conducts (calls ++ others) =
      session.conducts calls ++ (session.after calls).conducts others := by
  induction calls generalizing session with
  | nil => rfl
  | cons call calls induction =>
    simp only [List.cons_append, conducts, induction]
    rfl

/-! ### What one call does -/

theorem course_perform
    (session : Session (Traced Stream))
    (call : Call Stream) :
    Course (session.opened call)
      (Text.Utf8.encode (session.codec.encode call.command).1)
      (session.conduct call).refusal
      (session.conduct call).operations
      (session.conduct call).attempts
      (session.perform call) := by
  rcases course_sendWithin
    (session.opened call) call.command call.limits call.clock with ⟨operations, course⟩
  have asked : (session.conduct call).operations = operations := by
    show (session.perform call).state.stream.operations.drop _ = operations
    rw [show (session.perform call).state.stream.operations =
        (session.opened call).stream.operations ++ operations from course.operations_eq]
    exact List.drop_left
  rw [asked]
  exact course

/-- Stale input stays stale unless it is dropped, and attempts that are given up make it stale. -/
theorem staleInput_perform
    (session : Session (Traced Stream))
    (call : Call Stream)
    (earlier : List Ending)
    (stale : session.staleInput = earlier.any Ending.isAbandoned) :
    (session.perform call).state.staleInput =
      ((session.conduct call).addTo earlier).any Ending.isAbandoned := by
  have same : (session.opened call).staleInput = earlier.any Ending.isAbandoned := stale
  rw [(course_perform session call).staleInput, same]
  rw [Conduct.addTo]
  by_cases dropped : (session.conduct call).operations.any Operation.drops = true
  · simp [dropped]
  · simp [dropped]

/-! ### What a history leaves behind -/

/-- The obligation to drop the input is what the attempts since the last drop say. -/
theorem staleInput_after
    (session : Session (Traced Stream))
    (calls : List (Call Stream))
    (earlier : List Ending)
    (stale : session.staleInput = earlier.any Ending.isAbandoned) :
    (session.after calls).staleInput =
      ((session.conducts calls).foldl Conduct.addTo earlier).any Ending.isAbandoned := by
  induction calls generalizing session earlier with
  | nil => exact stale
  | cons call calls induction =>
    exact induction (session.perform call).state ((session.conduct call).addTo earlier)
      (staleInput_perform session call earlier stale)

theorem sound_after
    (session : Session (Traced Stream))
    (calls : List (Call Stream))
    (sound : session.stream.Sound) :
    (session.after calls).stream.Sound := by
  induction calls generalizing session with
  | nil => exact sound
  | cons call calls induction =>
    apply induction (session.perform call).state
    exact (course_perform session call).sound (sound.note _ _ _)

/-- Replies are decoded from lines that arrived no earlier than all that could be read before. -/
theorem answers_since
    {place : Nat}
    (session : Session (Traced Stream))
    (calls : List (Call Stream))
    (since : session.stream.Since GivesReply place) :
    ∀ conduct ∈ session.conducts calls, ∀ reply, conduct.result = .ok reply →
      ∃ origin, EndsWithReply conduct.operations reply origin ∧ place ≤ origin := by
  induction calls generalizing session with
  | nil => simp [conducts]
  | cons call calls induction =>
    have course := course_perform session call
    have opened : (session.opened call).stream.Since GivesReply place :=
      since.idle call.lines_meanwhile
    intro conduct member reply answered
    rcases List.mem_cons.mp member with this | later
    · subst this
      rcases course.answer answered with ⟨origin, ends, recent⟩
      exact ⟨origin, ends, recent place opened⟩
    · exact induction (session.perform call).state (course.since opened) conduct later reply
        answered

/-! ### Dropping stale input -/

/-- What a call after a history does with the input and with the obligation to drop it. -/
structure DropsAsOwed
    (session : Session (Traced Stream))
    (history : List (Call Stream))
    (call : Call Stream) :
    Prop where
  /--
  If an attempt since the last drop was given up, a call that its limits admit
  drops the input once and before its first write.  If this succeeds and leaves
  no line, then no line that could be read at that moment becomes a reply.
  -/
  owed :
    Conduct.owesDrop (session.conducts history) = true →
      ((session.after history).conduct call).refusal = none →
        ∃ outcome rest,
          ((session.after history).conduct call).operations = .discard outcome :: rest ∧
            (∀ operation ∈ rest, operation.isDiscard = false) ∧
            (outcome = .ok () →
              BufferedStream.lines
                  ((session.after history).opened call).stream.discardInput.2.stream = [] →
                ∀ later, ∀ conduct ∈ (session.after history).conducts (call :: later),
                  ∀ reply, conduct.result = .ok reply →
                    ∃ origin, EndsWithReply conduct.operations reply origin ∧
                      origin ∉ ((session.after history).opened call).stream.origins)
  /-- If all attempts since the last drop were answered, the input is kept. -/
  settled :
    (∀ ending ∈ Conduct.sinceDropped (session.conducts history), ending.isAnswered = true) →
      (∀ operation ∈ ((session.after history).conduct call).operations,
        operation.isDiscard = false) ∧
        BufferedStream.lines ((session.after history).opened call).stream.stream <+:
          ((session.after history).conduct call).operations.flatMap Operation.taken ++
            BufferedStream.lines ((session.after history).perform call).state.stream.stream
  /-- If dropping the input fails, nothing is written, and the next call has to try again. -/
  undropped : ∀ error,
    .discard (.error error) ∈ ((session.after history).conduct call).operations →
      ((session.after history).conduct call).result = .error (.linkLost error.message) ∧
        ((session.after history).conduct call).operations = [.discard (.error error)] ∧
        Conduct.owesDrop (session.conducts (history ++ [call])) = true
  /--
  A call that its limits refuse does nothing but number its request, and leaves
  the obligation as it is.
  -/
  refused : ∀ error,
    ((session.after history).conduct call).refusal = some error →
      ((session.after history).conduct call).result = .error error ∧
        ((session.after history).conduct call).operations = [] ∧
        ((session.after history).perform call).state =
          ((session.after history).opened call).numbered call.command ∧
        Conduct.owesDrop (session.conducts (history ++ [call])) =
          Conduct.owesDrop (session.conducts history)

/-- The input is dropped when this is owed, and only then. -/
theorem drops_as_owed
    (stream : Stream)
    (config : SessionConfig)
    (history : List (Call Stream))
    (call : Call Stream) :
    DropsAsOwed (Session.new (Traced.start stream) config) history call := by
  have owes := staleInput_after (Session.new (Traced.start stream) config) history [] rfl
  have sound := sound_after (Session.new (Traced.start stream) config) history
    (Traced.sound_start stream)
  generalize Session.new (Traced.start stream) config = session at owes sound
  have course := course_perform (session.after history) call
  have opened : ((session.after history).opened call).staleInput =
      Conduct.owesDrop (session.conducts history) := owes
  have dated : ∀ origin ∈ ((session.after history).opened call).stream.origins,
      origin < ((session.after history).opened call).stream.now :=
    (sound.note _ _ _).dated
  constructor
  case owed =>
    intro owed admitted
    rw [admitted] at course
    rcases course.of_stale (opened.trans owed) with ⟨rest, asked, kept⟩
    refine ⟨_, rest, asked, kept, ?_⟩
    intro succeeded gone later
    have dropped : ((session.after history).conduct call).operations.any Operation.drops =
        true := by
      simp [asked, succeeded, Operation.drops]
    rcases course.since_of_drops dropped gone with ⟨since, answer⟩
    intro conduct member reply answered
    have recent : ∃ origin, EndsWithReply conduct.operations reply origin ∧
        ((session.after history).opened call).stream.now ≤ origin := by
      rcases List.mem_cons.mp member with this | later
      · subst this
        exact answer reply answered
      · exact answers_since _ _ since conduct later reply answered
    rcases recent with ⟨origin, ends, reached⟩
    refine ⟨origin, ends, ?_⟩
    intro old
    exact Nat.not_lt.mpr reached (dated origin old)
  case settled =>
    intro answered
    refine course.of_fresh (opened.trans ?_)
    rw [Conduct.owesDrop, List.any_eq_false]
    intro ending member
    simp [Ending.isAbandoned_eq_false_of_isAnswered (answered ending member)]
  case undropped =>
    intro error failed
    rcases course.of_undropped failed with ⟨asked, untried, result, stale⟩
    refine ⟨result, asked, ?_⟩
    have later := staleInput_perform (session.after history) call _ owes
    rw [stale] at later
    simpa [Conduct.owesDrop, Conduct.sinceDropped, conducts] using later.symm
  case refused =>
    intro error refused
    have performs : (session.after history).perform call =
        ⟨.error error, ((session.after history).opened call).numbered call.command, call.clock⟩ :=
      (sendWithin_of_refused _ call.command refused).1
    rw [refused] at course
    rcases course.of_refused with ⟨asked, untried, result, _⟩
    refine ⟨result, asked, by rw [performs], ?_⟩
    simp [Conduct.owesDrop, Conduct.sinceDropped, conducts, Conduct.addTo, asked, untried]

/-- A request that is never answered leaves it to the next one to drop the input. -/
example :
    let session := Session.new (Traced.start Scripted.empty)
      ⟨.withoutBackoff 1, .ofMilliseconds 1, .placeholder⟩
    let call : Call Scripted := .prompt (.query 'e' (by decide)) .none .start
    Conduct.owesDrop (session.conducts [call]) = true ∧
      ((session.after [call]).conduct call).operations.map Operation.isDiscard =
        [true, false, false] := by
  decide +kernel

end Session

end RoverLink
