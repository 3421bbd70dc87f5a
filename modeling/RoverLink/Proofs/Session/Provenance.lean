import RoverLink.Proofs.Session.History
import RoverLink.Proofs.Session.Reception
import RoverLink.Proofs.Stream.Solicited

/-!
# Which request a reply belongs to

On a steady script each write releases at most one line that gives a reply.  An
attempt then ends in one of three ways: its reply was read, so that none is
left; it was given up, so that the next call drops the input; or a complete
frame that gives no reply ended it.  After the third the input is kept although
the reply to the request may still be in it, and the next call may take this
reply for its own (`reply_released`).
-/

namespace RoverLink

/-- How many lines give a reply. -/
def countReplies (lines : List (List Char)) : Nat :=
  lines.countP fun text => GivesReply text

@[simp]
theorem countReplies_append (left right : List (List Char)) :
    countReplies (left ++ right) = countReplies left + countReplies right :=
  List.countP_append

namespace Ending

/-- Whether a complete frame that gives no reply ended the attempt. -/
def isUndecodable : Ending → Bool
  | .awaited (.failed (.malformedReply _ _)) => true
  | _ => false

/-- Whether the reply to the attempt may still arrive. -/
def leavesInput (ending : Ending) : Bool :=
  ending.isAbandoned || ending.isUndecodable

end Ending

namespace Scripted

/-- The replies that can be read now. -/
def pending (stream : Scripted) : Nat :=
  countReplies (linesOf stream.readable)

theorem pending_of_readable_eq_cons
    {stream : Scripted}
    {arrival : Arrival}
    {rest : List Arrival}
    (readable : stream.readable = arrival :: rest) :
    stream.pending =
      countReplies arrival.outcome.lines + Scripted.pending { stream with readable := rest } := by
  simp [pending, readable]

/-- A device that stays connected and releases at most one reply with each write. -/
structure IsSteady (stream : Scripted) : Prop where
  connected : stream.connected = true
  /-- Dropping input drops all that can be read. -/
  drops : stream.keepsInput = false ∧ stream.failsDiscard = false
  /-- Reading does not fail, except that nothing may have arrived yet. -/
  reads : ∀ arrival ∈ stream.readable ++ stream.script.flatten, ∀ error,
    arrival.outcome = .failed error → error.isReadTimeout = true
  /-- No batch has two lines that give replies. -/
  single : ∀ batch ∈ stream.script, countReplies (linesOf batch) ≤ 1

theorem IsSteady.withReadable
    {stream : Scripted}
    (steady : stream.IsSteady)
    {readable : List Arrival}
    (fewer : readable ⊆ stream.readable) :
    Scripted.IsSteady { stream with readable } where
  connected := steady.connected
  drops := steady.drops
  reads := by
    intro arrival member
    apply steady.reads arrival
    rcases List.mem_append.mp member with now | later
    · exact List.mem_append_left _ (fewer now)
    · exact List.mem_append_right _ later
  single := steady.single

theorem IsSteady.write
    {stream : Scripted}
    (steady : stream.IsSteady)
    (octets : List UInt8) :
    (stream.write octets).stream.IsSteady := by
  rw [write_of_connected steady.connected]
  refine ⟨steady.connected, steady.drops, ?_, ?_⟩
  · intro arrival member
    apply steady.reads arrival
    cases script : stream.script <;> simp_all
  · intro batch member
    exact steady.single batch (List.mem_of_mem_tail member)

/-- A write releases at most one reply. -/
theorem IsSteady.pending_write
    {stream : Scripted}
    (steady : stream.IsSteady)
    (octets : List UInt8) :
    (stream.write octets).stream.pending ≤ stream.pending + 1 := by
  rw [write_of_connected steady.connected, pending]
  rw [linesOf_append, countReplies_append]
  refine Nat.add_le_add_left ?_ _
  cases script : stream.script with
  | nil => exact Nat.zero_le 1
  | cons batch rest => exact steady.single batch (by simp [script])

/-- A steady stream with something to read gives its first arrival. -/
theorem IsSteady.stream_receive
    {stream : Scripted}
    (steady : stream.IsSteady)
    {arrival : Arrival}
    {rest : List Arrival}
    (readable : stream.readable = arrival :: rest) :
    (Scripted.receive { stream with readable := rest } arrival).stream =
      { stream with readable := rest } := by
  apply Scripted.stream_receive
  intro gone
  have retried := steady.reads arrival (by simp [readable]) _ gone
  simp [IoError.isReadTimeout, unplugged] at retried

theorem IsSteady.discardInput
    {stream : Scripted}
    (steady : stream.IsSteady) :
    stream.discardInput =
      (.ok (), { stream with
        discarded := stream.discarded ++ stream.readable
        readable := [] }) :=
  discardInput_of_drops steady.drops

end Scripted

namespace Session

/-! ### One wait -/

/-- A line that ends a wait is the reply, or leaves the reply behind. -/
theorem leavesInput_or_gives
    {waiting : Waiting}
    {text : List Char}
    {awaited : Awaited}
    (ended : waiting.endedBy? (.line text) = some awaited) :
    (Ending.awaited awaited).leavesInput = true ∨ GivesReply text := by
  have judged := waiting.codec.judged (Text.trim text)
  simp only [Waiting.endedBy?] at ended
  generalize waiting.codec.judge (Text.trim text) = verdict at ended judged
  cases judged with
  | unframed _ => simp at ended
  | truncated _ _ => simp at ended
  | foreign _ _ => simp at ended
  | undecodable _ _ _ =>
    cases ended
    exact Or.inl rfl
  | corrupted _ _ _ =>
    cases ended
    exact Or.inl rfl
  | @answer reply kind accepted =>
    exact Or.inr ⟨reply, kind, accepted.1⟩

theorem leavesInput_expired
    (waiting : Waiting)
    (clock : Clock) :
    (Ending.awaited (waiting.expired clock)).leavesInput = true := by
  rw [Waiting.expired]
  split <;> rfl

/-- An arrival that ends a wait on a steady stream is the reply, or leaves it behind. -/
theorem leavesInput_or_countReplies_eq_one
    {waiting : Waiting}
    {stream : Scripted}
    (steady : stream.IsSteady)
    {arrival : Arrival}
    (member : arrival ∈ stream.readable)
    {awaited : Awaited}
    (ended : waiting.endedBy? arrival.outcome = some awaited) :
    (Ending.awaited awaited).leavesInput = true ∨ countReplies arrival.outcome.lines = 1 := by
  cases outcome : arrival.outcome with
  | line text =>
    rw [outcome] at ended
    rcases leavesInput_or_gives ended with leaves | gives
    · exact Or.inl leaves
    · exact Or.inr (by simp [countReplies, ReadOutcome.lines, gives])
  | nothing => simp [outcome, Waiting.endedBy?] at ended
  | quiet => exact absurd outcome arrival.outcome_ne_quiet
  | failed error =>
    have retried := steady.reads arrival (List.mem_append_left _ member) error outcome
    simp [outcome, Waiting.endedBy?, retried] at ended

/-- A wait on a steady stream leaves replies behind only if it says so. -/
theorem steady_awaitReply
    (waiting : Waiting)
    (stream : Scripted)
    (clock : Clock)
    (steady : stream.IsSteady) :
    (awaitReply waiting stream clock).stream.IsSteady ∧
      (awaitReply waiting stream clock).stream.pending ≤ stream.pending ∧
      ((Ending.awaited (awaitReply waiting stream clock).awaited).leavesInput = true ∨
        (awaitReply waiting stream clock).stream.pending + 1 ≤ stream.pending) := by
  revert steady
  refine awaitReply_induction waiting
    (motive := fun stream _ waited =>
      stream.IsSteady → waited.stream.IsSteady ∧ waited.stream.pending ≤ stream.pending ∧
        ((Ending.awaited waited.awaited).leavesInput = true ∨
          waited.stream.pending + 1 ≤ stream.pending))
    ?closed ?quiet ?ended ?passed stream clock
  case closed =>
    intro stream clock _ steady
    exact ⟨steady, Nat.le_refl _, Or.inl (leavesInput_expired waiting clock)⟩
  case quiet =>
    intro stream clock _ silent steady
    have empty := Scripted.readable_eq_nil_of_quiet steady.connected silent
    have same : (ByteStream.readLine stream).stream = stream := by
      show stream.readLine.stream = stream
      simp [Scripted.readLine, steady.connected, empty]
    simp only [same]
    exact ⟨steady, Nat.le_refl _, Or.inl (leavesInput_expired waiting _)⟩
  case ended =>
    intro stream clock awaited _ loud ended steady
    rcases Scripted.exists_readable_eq_cons steady.connected loud with ⟨arrival, rest, readable⟩
    have read : ByteStream.readLine stream = _ :=
      Scripted.readLine_of_readable_eq_cons steady.connected readable
    rw [read, Scripted.outcome_receive] at ended
    simp only [read, steady.stream_receive readable, Scripted.pending_of_readable_eq_cons readable]
    refine ⟨steady.withReadable (by simp [readable]), Nat.le_add_left _ _, ?_⟩
    rcases leavesInput_or_countReplies_eq_one steady (by simp [readable]) ended with leaves | one
    · exact Or.inl leaves
    · rw [one, Nat.add_comm]
      exact Or.inr (Nat.le_refl _)
  case passed =>
    intro stream clock waited _ loud _ induction steady
    rcases Scripted.exists_readable_eq_cons steady.connected loud with ⟨arrival, rest, readable⟩
    have read : ByteStream.readLine stream = _ :=
      Scripted.readLine_of_readable_eq_cons steady.connected readable
    have fewer : Scripted.pending { stream with readable := rest } ≤ stream.pending := by
      rw [Scripted.pending_of_readable_eq_cons readable]
      exact Nat.le_add_left _ _
    rw [read, steady.stream_receive readable] at induction
    rcases induction (steady.withReadable (by simp [readable])) with ⟨steadyAfter, less, leaves⟩
    refine ⟨steadyAfter, Nat.le_trans less fewer, leaves.imp_right ?_⟩
    intro consumed
    exact Nat.le_trans consumed fewer

/-! ### Attempts and calls -/

/-- If a reply can be read before an attempt, an earlier attempt left it behind. -/
def IsTidy (stream : Scripted) (attempts : List Ending) : Prop :=
  stream.pending = 0 ∨ attempts.any Ending.leavesInput = true

theorem steady_exchange
    (session : Session Scripted)
    (frame : List Char)
    (limits : Limits)
    (started : Nat)
    (clock : Clock)
    (steady : session.stream.IsSteady) :
    (session.exchange frame limits started clock).stream.IsSteady ∧
      ((session.exchange frame limits started clock).ending.leavesInput = true ∨
        (session.exchange frame limits started clock).stream.pending ≤
          session.stream.pending) := by
  have write : ByteStream.write (Text.Utf8.encode frame) session.stream =
      session.stream.write (Text.Utf8.encode frame) :=
    rfl
  have outcome := congrArg Response.outcome
    (Scripted.write_of_connected steady.connected (Text.Utf8.encode frame))
  rw [exchange]
  simp only [write, outcome]
  rcases steady_awaitReply
    (session.waitingFor limits started _) _ _ (steady.write (Text.Utf8.encode frame)) with
      ⟨steadyAfter, _, leaves⟩
  refine ⟨steadyAfter, leaves.imp_right ?_⟩
  intro consumed
  exact Nat.le_of_succ_le_succ (Nat.le_trans consumed (steady.pending_write _))

theorem tidy_sendFrame
    (frame : List Char)
    (limits : Limits)
    (started : Nat)
    (policy : RetryPolicy)
    (done : Nat)
    (session : Session Scripted)
    (clock : Clock)
    (steady : session.stream.IsSteady)
    (earlier : List Ending)
    (tidy : IsTidy session.stream earlier) :
    (sendFrame frame limits started policy done session clock).state.stream.IsSteady ∧
      IsTidy (sendFrame frame limits started policy done session clock).state.stream
        (earlier ++ endings frame limits started policy done session clock) := by
  have one : ∀ (session : Session Scripted) (clock : Clock) (earlier : List Ending),
      session.stream.IsSteady → IsTidy session.stream earlier →
        (session.exchange frame limits started clock).stream.IsSteady ∧
          IsTidy (session.exchange frame limits started clock).stream
            (earlier ++ [(session.exchange frame limits started clock).ending]) := by
    intro session clock earlier steady tidy
    rcases steady_exchange session frame limits started clock steady with ⟨steadyAfter, leaves⟩
    refine ⟨steadyAfter, ?_⟩
    rcases leaves with leaves | fewer
    · exact Or.inr (by simp [leaves])
    · rcases tidy with none | left
      · exact Or.inl (Nat.le_zero.mp (none ▸ fewer))
      · exact Or.inr (by simp [left])
  revert earlier steady
  refine sendFrame_induction frame limits started policy
    (motive := fun _ session _ step ended =>
      session.stream.IsSteady → ∀ earlier, IsTidy session.stream earlier →
        step.state.stream.IsSteady ∧ IsTidy step.state.stream (earlier ++ ended))
    ?settled ?stopped ?resumed done session clock
  case settled =>
    intro done session clock result _ steady earlier tidy
    exact one session clock earlier steady tidy
  case stopped =>
    intro done session clock error later _ _ steady earlier tidy
    exact one session clock earlier steady tidy
  case resumed =>
    intro done session clock later step rest _ _ induction steady earlier tidy
    rcases one session clock earlier steady tidy with ⟨steadyAfter, tidyAfter⟩
    have others := induction steadyAfter _ tidyAfter
    rwa [List.append_assoc] at others

/-- Stale input is dropped, and with it all replies that were left behind. -/
theorem tidy_dropStale
    (session : Session Scripted)
    (steady : session.stream.IsSteady)
    (earlier : List Ending)
    (tidy : IsTidy session.stream earlier) :
    session.dropStale.1 = .ok () ∧ session.dropStale.2.stream.IsSteady ∧
      IsTidy session.dropStale.2.stream (if session.staleInput then [] else earlier) := by
  have dropped : ByteStream.discardInput session.stream = _ := steady.discardInput
  rw [dropStale]
  cases session.staleInput with
  | false => exact ⟨rfl, steady, tidy⟩
  | true =>
    simp only [if_true, dropped]
    refine ⟨trivial, ⟨steady.connected, steady.drops, ?_, steady.single⟩, Or.inl rfl⟩
    intro arrival member
    exact steady.reads arrival (List.mem_append_right _ member)

/-- A call leaves a reply behind only if one of its attempts says so. -/
theorem tidy_perform
    (session : Session (Traced Scripted))
    (call : Call Scripted)
    (prompt : call.IsPrompt)
    (steady : session.stream.stream.IsSteady)
    (earlier : List Ending)
    (tidy : IsTidy session.stream.stream earlier) :
    (session.perform call).state.stream.stream.IsSteady ∧
      IsTidy (session.perform call).state.stream.stream
        ((session.conduct call).addTo earlier) := by
  have course := course_perform session call
  have still : (session.opened call).stream.stream = session.stream.stream :=
    congrFun prompt session.stream.stream
  rw [← still] at steady tidy
  cases admitted : (session.conduct call).refusal with
  | some error =>
    rw [admitted] at course
    rcases course.of_refused with ⟨asked, untried, _, stream⟩
    rw [stream]
    refine ⟨steady, ?_⟩
    simpa [Conduct.addTo, asked, untried] using tidy
  | none =>
    rw [admitted] at course
    -- The same call without the record.
    have finish : (session.perform call).state.stream.stream =
        (((session.opened call).mapStream Traced.stream).sendWithin call.command call.limits
          call.clock).state.stream :=
      congrArg (fun step => step.state.stream) (perform_forget session call)
    have tries : (session.conduct call).attempts =
        ((session.opened call).mapStream Traced.stream).attempts call.command call.limits
          call.clock :=
      (attempts_map Traced.forget (session.opened call) _ _ _).symm
    have succeeds : (session.opened call).stream.discardInput.1 = .ok () := by
      show (session.opened call).stream.stream.discardInput.1 = .ok ()
      rw [steady.discardInput]
    have behind : (session.conduct call).addTo earlier =
        (if (session.opened call).staleInput then [] else earlier) ++
          (session.conduct call).attempts := by
      rw [Conduct.addTo]
      rw [course.any_drops succeeds]
      split <;> rfl
    rcases tidy_dropStale
      (((session.opened call).mapStream Traced.stream).numbered call.command)
      steady earlier tidy with ⟨dropped, steadyDropped, tidyDropped⟩
    rcases sendWithin_of_dropped
      ((session.opened call).mapStream Traced.stream) call.command admitted dropped with
        ⟨sends, makes⟩
    rw [finish, behind, tries, sends, makes]
    exact tidy_sendFrame _ _ _ _ _ _ _ steadyDropped _ tidyDropped

/-- Replies that can be read were left behind by an attempt since the last drop. -/
theorem tidy_after
    (session : Session (Traced Scripted))
    (calls : List (Call Scripted))
    (prompt : ∀ call ∈ calls, call.IsPrompt)
    (steady : session.stream.stream.IsSteady)
    (earlier : List Ending)
    (tidy : IsTidy session.stream.stream earlier) :
    (session.after calls).stream.stream.IsSteady ∧
      IsTidy (session.after calls).stream.stream
        ((session.conducts calls).foldl Conduct.addTo earlier) := by
  induction calls generalizing session earlier with
  | nil => exact ⟨steady, tidy⟩
  | cons call calls induction =>
    rcases tidy_perform session call (prompt call (by simp)) steady
      earlier tidy with ⟨steadyAfter, tidyAfter⟩
    exact induction (session.perform call).state
      (fun other member => prompt other (List.mem_cons_of_mem _ member)) steadyAfter _ tidyAfter

/-! ### Replies that were left behind -/

/-- A wait without limits ends with the reply that was left behind. -/
theorem awaitReply_leftover
    (waiting : Waiting)
    (unlimited : waiting.limits = .none)
    {skipped rest : List Arrival}
    {arrival : Arrival}
    {text : List Char}
    {reply : Reply}
    (passed : ∀ other ∈ skipped, waiting.codec.PassesOver other)
    (brought : arrival.outcome = .line text)
    (kind : LineKind.ofLine (Text.trim text) = .frame)
    (accepted : waiting.codec.Accepts (Text.trim text) reply)
    (traced : Traced Scripted)
    (clock : Clock)
    (aligned : traced.origins.length = (BufferedStream.lines traced.stream).length)
    (steady : traced.stream.IsSteady)
    (timely : traced.stream.IsTimely)
    (inTime : clock.now ≤ waiting.replyEnd)
    (readable : traced.stream.readable = skipped ++ arrival :: rest) :
    (awaitReply waiting traced clock).awaited = .reply reply ∧
      ∃ origin, traced.origins[(Scripted.linesOf skipped).length]? = some origin ∧
        (awaitReply waiting traced clock).stream.operations.getLast? =
          some (.read (.line text) origin) := by
  have isOpen : waiting.IsOpen clock := ⟨by rw [unlimited]; rfl, inTime⟩
  induction skipped generalizing traced clock with
  | nil =>
    have outcome : (ByteStream.readLine traced).outcome = .line text := by
      show traced.stream.readLine.outcome = _
      rw [Scripted.readLine_of_readable_eq_cons steady.connected readable,
        Scripted.outcome_receive, brought]
    have ended : waiting.endedBy? (.line text) = some (.reply reply) := by
      simp [Waiting.endedBy?, Codec.judge_of_accepts kind accepted]
    have lines : BufferedStream.lines traced.stream = text :: Scripted.linesOf rest := by
      show Scripted.linesOf traced.stream.readable = _
      rw [readable, List.nil_append, Scripted.linesOf_cons, brought]
      rfl
    rw [awaitReply_of_isOpen isOpen]
    simp only [outcome, ended, reduceCtorEq, if_false]
    refine ⟨trivial, traced.nextOrigin, ?_, ?_⟩
    · cases origins : traced.origins with
      | nil => simp [origins, lines] at aligned
      | cons origin others => simp [Traced.nextOrigin, origins]
    · rw [← outcome]
      exact List.getLast?_concat
  | cons first skipped induction =>
    have read := Scripted.readLine_of_readable_eq_cons steady.connected readable
    have outcome : (ByteStream.readLine traced).outcome = first.outcome := by
      show traced.stream.readLine.outcome = _
      rw [read, Scripted.outcome_receive]
    have left : traced.readLine.stream.stream =
        { traced.stream with readable := skipped ++ arrival :: rest } := by
      show traced.stream.readLine.stream = _
      rw [read]
      exact steady.stream_receive readable
    have sooner : skipped ++ arrival :: rest ⊆ traced.stream.readable := by
      simp [readable]
    have now : (waiting.clockAfterRead traced clock).now = clock.now := by
      rw [← clockAfterRead_map Traced.forget]
      exact now_clockAfterRead unlimited steady.connected readable
        (timely first (by simp [readable])) clock
    have later := induction (fun other member => passed other (List.mem_cons_of_mem _ member))
      traced.readLine.stream (waiting.clockAfterRead traced clock)
      (Traced.length_follow _ _ _)
      (by rw [left]; exact steady.withReadable sooner)
      (by rw [left]; exact timely.mono (by simp [readable]))
      (by rw [now]; exact inTime)
      (by rw [left])
      ⟨by rw [unlimited]; rfl, by rw [now]; exact inTime⟩
    rcases later with ⟨answered, origin, found, last⟩
    rw [awaitReply_of_isOpen isOpen]
    simp only [outcome, if_neg first.outcome_ne_quiet,
      endedBy?_eq_none_of_passesOver (passed first (by simp))]
    refine ⟨answered, origin, ?_, last⟩
    rw [Traced.origins_readLine aligned, List.getElem?_drop] at found
    rw [Scripted.linesOf_cons, List.length_append, ← outcome]
    exact found

/-- An attempt takes the reply that was left behind, whatever its write releases. -/
theorem exchange_leftover
    (session : Session (Traced Scripted))
    {skipped rest : List Arrival}
    {arrival : Arrival}
    {text : List Char}
    {reply : Reply}
    (passed : ∀ other ∈ skipped, session.codec.PassesOver other)
    (brought : arrival.outcome = .line text)
    (kind : LineKind.ofLine (Text.trim text) = .frame)
    (accepted : session.codec.Accepts (Text.trim text) reply)
    (aligned : session.stream.origins.length =
      (BufferedStream.lines session.stream.stream).length)
    (steady : session.stream.stream.IsSteady)
    (timely : session.stream.stream.IsTimely)
    (readable : session.stream.stream.readable = skipped ++ arrival :: rest)
    (frame : List Char)
    (started : Nat)
    (clock : Clock) :
    (session.exchange frame .none started clock).ending = .awaited (.reply reply) ∧
      ∃ origin, session.stream.origins[(Scripted.linesOf skipped).length]? = some origin ∧
        (session.exchange frame .none started clock).stream.operations.getLast? =
          some (.read (.line text) origin) := by
  have written := Scripted.write_of_connected steady.connected (Text.Utf8.encode frame)
  have outcome : (ByteStream.write (Text.Utf8.encode frame) session.stream).outcome = .ok () :=
    congrArg Response.outcome written
  have behind : (session.stream.write (Text.Utf8.encode frame)).stream.stream.readable =
      skipped ++ arrival :: (rest ++ session.stream.stream.script.head?.getD []) := by
    show (session.stream.stream.write (Text.Utf8.encode frame)).stream.readable = _
    rw [written]
    simp [readable]
  have lines : (BufferedStream.lines session.stream.stream).length =
      (Scripted.linesOf skipped).length + (1 + (Scripted.linesOf rest).length) := by
    show (Scripted.linesOf session.stream.stream.readable).length = _
    rw [readable, Scripted.linesOf_append, Scripted.linesOf_cons, brought]
    simp only [List.length_append, ReadOutcome.lines, List.length_singleton]
  have more : session.stream.origins.length ≤
      (BufferedStream.lines (ByteStream.write (Text.Utf8.encode frame)
        session.stream.stream).stream).length := by
    rw [aligned]
    exact (BufferedStream.lines_write _ _).length_le
  rw [exchange]
  simp only [outcome]
  rcases awaitReply_leftover
    (session.waitingFor .none started _) rfl passed brought kind accepted
    (session.stream.write (Text.Utf8.encode frame)).stream _ (Traced.length_follow _ _ _)
    (steady.write _) (timely.write _) (Nat.le_add_right _ _) behind with
      ⟨answered, origin, found, last⟩
  refine ⟨congrArg Ending.awaited answered, origin, ?_, last⟩
  rw [← found]
  exact (Traced.getElem?_follow more (by omega)).symm

/-- A call without limits on input that is not stale takes the reply that was left behind. -/
theorem perform_leftover
    {session : Session (Traced Scripted)}
    {call : Call Scripted}
    (prompt : call.IsPrompt)
    (unlimited : call.limits = .none)
    (fresh : session.staleInput = false)
    {line : List Char}
    {reply : Reply}
    {left : Scripted}
    (received : Received (session.codec.encode call.command).2 session.stream.stream
      (.decided line) left)
    (accepted : (session.codec.encode call.command).2.Accepts line reply)
    (success : reply.status = 0)
    (steady : session.stream.stream.IsSteady)
    (timely : session.stream.stream.IsTimely) :
    (session.perform call).result = .ok reply ∧
      ∃ origin ∈ (session.opened call).stream.origins, ∃ text,
        (session.perform call).state.stream.operations.getLast? =
          some (.read (.line text) origin) := by
  have still : (session.opened call).stream.stream = session.stream.stream :=
    congrFun prompt session.stream.stream
  rw [← still] at received steady timely
  have keeps : ((session.opened call).numbered call.command).dropStale =
      (.ok (), (session.opened call).numbered call.command) := by
    have same : ((session.opened call).numbered call.command).staleInput = false := fresh
    simp [dropStale, same]
  rcases sendWithin_of_dropped (session.opened call) call.command
    (exceeded?_none call.clock.now call.clock) (congrArg Prod.fst keeps) with ⟨sends, _⟩
  have performs : session.perform call =
      (session.opened call).sendWithin call.command .none call.clock := by
    rw [perform, unlimited]
  cases received with
  | decided readable passed brought decisive =>
    rcases exchange_leftover
      ((session.opened call).numbered call.command) passed brought decisive.1 accepted
      (Traced.length_follow _ _ _) steady timely readable
      ((session.opened call).codec.encode call.command).1 call.clock.now call.clock with
        ⟨ending, origin, found, last⟩
    have settled : (((session.opened call).numbered call.command).exchange
        ((session.opened call).codec.encode call.command).1 .none call.clock.now
          call.clock).ending.result? = some (.ok reply) := by
      rw [ending]
      simp [Ending.result?, StatusClass.ofStatus, success]
    rw [performs, sends, congrArg Prod.snd keeps, sendFrame_of_settled settled]
    exact ⟨rfl, origin, List.mem_of_getElem? found, _, last⟩

/-! ### Histories -/

theorem Course.isSolicited
    {session : Session (Traced Scripted)}
    {octets : List UInt8}
    {refusal : Option Error}
    {operations : List Operation}
    {attempts : List Ending}
    {step : Step (Session (Traced Scripted)) Reply}
    (course : Course session octets refusal operations attempts step)
    (solicited : session.stream.IsSolicited) :
    step.state.stream.IsSolicited := by
  cases course with
  | refused _ stream _ => exact stream ▸ solicited
  | undropped _ _ _ stream _ => exact stream ▸ solicited.discardInput
  | dropped _ _ sent => exact sent.traffic.isSolicited solicited.discardInput
  | kept _ sent => exact sent.traffic.isSolicited solicited

theorem solicited_perform
    (session : Session (Traced Scripted))
    (call : Call Scripted)
    (prompt : call.IsPrompt)
    (solicited : session.stream.IsSolicited) :
    (session.perform call).state.stream.IsSolicited := by
  apply (course_perform session call).isSolicited
  show (session.stream.idle call.meanwhile).IsSolicited
  rw [prompt]
  exact solicited.idle

theorem solicited_after
    (session : Session (Traced Scripted))
    (calls : List (Call Scripted))
    (prompt : ∀ call ∈ calls, call.IsPrompt)
    (solicited : session.stream.IsSolicited) :
    (session.after calls).stream.IsSolicited := by
  induction calls generalizing session with
  | nil => exact solicited
  | cons call calls induction =>
    exact induction (session.perform call).state
      (fun other member => prompt other (List.mem_cons_of_mem _ member))
      (solicited_perform session call (prompt call (by simp)) solicited)

/-- Whether the line of a reply was released by a write of the call that was given the reply. -/
def IsOwnReply (session : Session (Traced Scripted)) (call : Call Scripted) (reply : Reply) :
    Prop :=
  ∃ place,
    EndsWithReply (session.conduct call).operations reply
        ((session.opened call).stream.now + place) ∧
      Traced.IsWrite (session.conduct call).operations place

/--
A call that starts without pending replies, or drops them, is given a reply that
arrived since it began.
-/
theorem recent_of_clear
    {session : Session (Traced Scripted)}
    {call : Call Scripted}
    (prompt : call.IsPrompt)
    (steady : session.stream.stream.IsSteady)
    (clear : session.staleInput = true ∨ session.stream.stream.pending = 0)
    {reply : Reply}
    (answered : (session.conduct call).result = .ok reply) :
    ∃ origin, EndsWithReply (session.conduct call).operations reply origin ∧
      (session.opened call).stream.now ≤ origin := by
  have course := course_perform session call
  have still : (session.opened call).stream.stream = session.stream.stream :=
    congrFun prompt session.stream.stream
  rcases clear with stale | none
  · rw [course.refusal_eq_none answered] at course
    have discards : (session.opened call).stream.stream.discardInput = _ :=
      still ▸ steady.discardInput
    have dropped : (session.conduct call).operations.any Operation.drops = true := by
      rw [course.any_drops (congrArg Prod.fst discards)]
      exact stale
    refine (course.since_of_drops dropped ?_).2 reply answered
    show Scripted.linesOf (session.opened call).stream.stream.discardInput.2.readable = []
    rw [discards]
    rfl
  · rcases course.answer answered with ⟨origin, ends, since⟩
    refine ⟨origin, ends, since _ ?_⟩
    apply Traced.Since.of_unwanted (Traced.length_follow _ _ _)
    intro text member gives
    have nothing : countReplies (Scripted.linesOf (session.opened call).stream.stream.readable) =
        0 := by
      rw [still]
      exact none
    exact List.countP_eq_zero.mp nothing text member (by simpa using gives)

/-- Such a call is given its own reply if nothing arrives without being asked for. -/
theorem isOwnReply_of_clear
    {session : Session (Traced Scripted)}
    {call : Call Scripted}
    (prompt : call.IsPrompt)
    (steady : session.stream.stream.IsSteady)
    (solicited : session.stream.IsSolicited)
    (clear : session.staleInput = true ∨ session.stream.stream.pending = 0)
    {reply : Reply}
    (answered : (session.conduct call).result = .ok reply) :
    session.IsOwnReply call reply := by
  have course := course_perform session call
  rcases recent_of_clear prompt steady clear answered with ⟨origin, ends, reached⟩
  rcases Nat.exists_eq_add_of_le reached with ⟨place, rfl⟩
  refine ⟨place, ends, ?_⟩
  rcases ends with ⟨text, last, _⟩
  have member : Operation.read (.line text) ((session.opened call).stream.now + place) ∈
      (session.perform call).state.stream.operations := by
    rw [course.operations_eq]
    exact List.mem_append_right _ (List.mem_of_getLast? last)
  rcases (solicited_perform session call prompt solicited).answered text _ member with
      ⟨octets, found⟩
  refine ⟨octets, ?_⟩
  simp only [course.operations_eq, Traced.now,
    List.getElem?_append_right (Nat.le_add_right _ _)] at found
  rwa [Nat.add_sub_cancel_left] at found

/-- Which replies a call is given after a history on a steady script. -/
structure RepliesInTurn
    (session : Session (Traced Scripted))
    (history : List (Call Scripted))
    (call : Call Scripted) :
    Prop where
  /-- Without pending replies, or if these are dropped, a call is given its own reply. -/
  own :
    (session.after history).staleInput = true ∨
        (session.after history).stream.stream.pending = 0 →
      ∀ reply, ((session.after history).conduct call).result = .ok reply →
        (session.after history).IsOwnReply call reply
  /-- Otherwise a complete frame that gives no reply has ended an attempt since the last drop. -/
  undecodable :
    ¬ ((session.after history).staleInput = true ∨
        (session.after history).stream.stream.pending = 0) →
      (Conduct.sinceDropped (session.conducts history)).any Ending.isUndecodable = true
  /--
  If then the first decisive line that can be read is accepted for a success, a
  call without limits is given it, although it arrived before the call.
  -/
  foreign :
    (session.after history).staleInput = false →
      call.limits = .none →
      (session.after history).stream.stream.IsTimely →
      ∀ line reply left,
        Received ((session.after history).codec.encode call.command).2
            (session.after history).stream.stream (.decided line) left →
          ((session.after history).codec.encode call.command).2.Accepts line reply →
          reply.status = 0 →
          ((session.after history).conduct call).result = .ok reply ∧
            ∃ origin < ((session.after history).opened call).stream.now,
              EndsWithReply ((session.after history).conduct call).operations reply origin

/-- A reply is taken for another request only after a frame that gives no reply. -/
theorem replies_in_turn
    {stream : Scripted}
    (steady : stream.IsSteady)
    (empty : stream.readable = [])
    (config : SessionConfig)
    (history : List (Call Scripted))
    (call : Call Scripted)
    (prompt : ∀ other ∈ history ++ [call], other.IsPrompt) :
    RepliesInTurn (Session.new (Traced.start stream) config) history call := by
  have promptBefore : ∀ other ∈ history, other.IsPrompt := fun other member =>
    prompt other (List.mem_append_left _ member)
  have promptNow : call.IsPrompt := prompt call (by simp)
  have none : IsTidy stream [] := Or.inl (by simp [Scripted.pending, empty, countReplies])
  have sound := sound_after (Session.new (Traced.start stream) config) history
    (Traced.sound_start stream)
  have solicited := solicited_after (Session.new (Traced.start stream) config) history
    promptBefore (Traced.isSolicited_start empty)
  have owes := staleInput_after (Session.new (Traced.start stream) config) history [] rfl
  rcases tidy_after (Session.new (Traced.start stream) config) history
    promptBefore steady [] none with ⟨steadyAfter, tidy⟩
  constructor
  case own =>
    intro clear reply answered
    exact isOwnReply_of_clear promptNow steadyAfter solicited clear answered
  case undecodable =>
    intro unclear
    rcases tidy with nothing | left
    · exact (unclear (Or.inr nothing)).elim
    · rcases List.any_eq_true.mp left with ⟨ending, member, leaves⟩
      rcases Bool.or_eq_true _ _ ▸ leaves with abandoned | undecodable
      · refine (unclear (Or.inl ?_)).elim
        rw [owes]
        exact List.any_eq_true.mpr ⟨ending, member, abandoned⟩
      · exact List.any_eq_true.mpr ⟨ending, member, undecodable⟩
  case foreign =>
    intro fresh unlimited timely line reply left received accepted success
    rcases perform_leftover promptNow unlimited fresh
      received accepted success steadyAfter timely with ⟨answered, origin, old, text, last⟩
    refine ⟨answered, origin, (sound.note _ _ _).dated origin old, ?_⟩
    have course := course_perform
      ((Session.new (Traced.start stream) config).after history) call
    rcases course.answer answered with ⟨place, ends, _⟩
    rcases ends with ⟨other, final, gives⟩
    rw [course.operations_eq, List.getLast?_append, final] at last
    cases last
    exact ⟨text, final, gives⟩

/-- A device that answers the first request with a broken frame and then with success. -/
def garbled : Scripted :=
  Scripted.empty.reply [.line ['#', '[', 'z', ']'], .line ['#', '[', '0', ']']]

theorem isSteady_garbled : garbled.IsSteady where
  connected := rfl
  drops := ⟨rfl, rfl⟩
  reads := by
    intro arrival member error failed
    have lines : arrival = .line ['#', '[', 'z', ']'] ∨ arrival = .line ['#', '[', '0', ']'] := by
      simpa [garbled, Scripted.empty, Scripted.reply] using member
    rcases lines with rfl | rfl <;> simp [Arrival.outcome] at failed
  single := by decide +kernel

theorem accepts_success (codec : Codec) :
    codec.Accepts ['#', '[', '0', ']'] ⟨0, [], none, none⟩ := by
  refine ⟨rfl, ?_, ?_⟩
  · cases checking : codec.mode <;> simp [Codec.verify?, checking]
  · cases checking : codec.mode <;> simp [Codec.matchesRequest, checking]

/-- The second request to this device is given the reply to the first one. -/
theorem exists_foreign_reply :
    ∃ (stream : Scripted) (config : SessionConfig) (history : List (Call Scripted))
      (call : Call Scripted) (reply : Reply),
      stream.IsSteady ∧ stream.readable = [] ∧ (∀ other ∈ history ++ [call], other.IsPrompt) ∧
        (((new (Traced.start stream) config).after history).conduct call).result = .ok reply ∧
        ∃ origin < (((new (Traced.start stream) config).after history).opened call).stream.now,
          EndsWithReply
            (((new (Traced.start stream) config).after history).conduct call).operations
            reply origin := by
  let config : SessionConfig := ⟨.withoutBackoff 5, .ofMilliseconds 1000, .placeholder⟩
  let call : Call Scripted := .prompt (.query 'e' (by decide)) .none .start
  have prompt : ∀ other ∈ [call, call], other.IsPrompt := by
    intro other member
    have same : other = call := by simpa using member
    exact same ▸ rfl
  have turns := replies_in_turn isSteady_garbled rfl config [call] call prompt
  have left : ((new (Traced.start garbled) config).after [call]).stream.stream.readable =
      [.line ['#', '[', '0', ']']] := by
    decide +kernel
  have spent : ((new (Traced.start garbled) config).after [call]).stream.stream.script = [] := by
    decide +kernel
  have timely : ((new (Traced.start garbled) config).after [call]).stream.stream.IsTimely := by
    intro arrival member text
    have line : arrival = .line ['#', '[', '0', ']'] := by
      simpa [left, spent] using member
    simp [line]
  have fresh : ((new (Traced.start garbled) config).after [call]).staleInput = false := by
    decide +kernel
  have trimmed : Text.trim ['#', '[', '0', ']'] = ['#', '[', '0', ']'] := by
    decide +kernel
  have accepted := accepts_success
    (((new (Traced.start garbled) config).after [call]).codec.encode call.command).2
  have decisive := Codec.isDecisive_of_accepts rfl accepted
  rw [← trimmed] at decisive accepted
  have received := Received.decided (left.trans (List.nil_append _).symm)
    (List.forall_mem_nil _) rfl decisive
  exact ⟨garbled, config, [call], call, _, isSteady_garbled, rfl, prompt,
    turns.foreign fresh rfl timely _ _ _ received accepted rfl⟩

end Session

end RoverLink
