import RoverLink.Proofs.Session.StreamMap

/-!
# Sessions over streams that bring more

Two related streams may bring the same except that a read of the second one can
bring, at once, what every wait passes over.  A session over the second stream
then does just what it does over the first one (`sendWithin_interspersed`): it
makes the same attempts, ends in the same way and at the same time, and leaves
related streams behind.

The second stream may make any number of further steps, so the two waits are
not compared read by read.  The induction is over the reads of the second one,
each of which is a read of the first one or leaves it as it is.
-/

namespace RoverLink

/-- Two responses with the same outcome, whose streams are related. -/
structure Response.Matches
    {Source Target Outcome : Type}
    (Related : Source → Target → Prop)
    (first : Response Source Outcome)
    (second : Response Target Outcome) :
    Prop where
  outcome : second.outcome = first.outcome
  lapse : second.lapse = first.lapse
  cancels : second.cancels = first.cancels
  stream : Related first.stream second.stream

/-- A read that takes no time, and after which every wait goes on. -/
structure Response.IsPassedOver
    {Stream : Type}
    (response : Response Stream ReadOutcome) :
    Prop where
  loud : response.outcome ≠ .quiet
  lapse : response.lapse = .none
  cancels : response.cancels = false
  passed : ∀ waiting : Session.Waiting, waiting.endedBy? response.outcome = none

/--
Related streams do the same, except that the second one may bring in between
what every wait passes over.
-/
structure Interspersed
    {Source Target : Type}
    [ByteStream Source]
    [ByteStream Target]
    (Related : Source → Target → Prop) :
    Prop where
  write : ∀ octets {plain : Source} {busy : Target}, Related plain busy →
    (ByteStream.write octets plain).Matches Related (ByteStream.write octets busy)
  readLine : ∀ {plain : Source} {busy : Target}, Related plain busy →
    (ByteStream.readLine plain).Matches Related (ByteStream.readLine busy) ∨
      (ByteStream.readLine busy).IsPassedOver ∧ Related plain (ByteStream.readLine busy).stream
  discardInput : ∀ {plain : Source} {busy : Target}, Related plain busy →
    (ByteStream.discardInput busy).1 = (ByteStream.discardInput plain).1 ∧
      Related (ByteStream.discardInput plain).2 (ByteStream.discardInput busy).2

theorem Response.Matches.clockAfter
    {Source Target Outcome : Type}
    {Related : Source → Target → Prop}
    {first : Response Source Outcome}
    {second : Response Target Outcome}
    (same : first.Matches Related second)
    (replyEnd deadline : Option Nat)
    (clock : Clock) :
    second.clockAfter replyEnd deadline clock = first.clockAfter replyEnd deadline clock := by
  rw [Response.clockAfter, same.lapse, same.cancels]
  rfl

/-- A read that is passed over leaves the clock as it is. -/
theorem Response.IsPassedOver.clockAfter
    {Stream : Type}
    {response : Response Stream ReadOutcome}
    (passedOver : response.IsPassedOver)
    (replyEnd deadline : Option Nat)
    (clock : Clock) :
    response.clockAfter replyEnd deadline clock = clock := by
  rw [Response.clockAfter, passedOver.lapse, passedOver.cancels]
  rfl

namespace Session

variable {Source Target : Type}

/-- The session over another stream. -/
def onStream (stream : Target) (session : Session Source) : Session Target :=
  session.mapStream fun _ => stream

variable [ByteStream Source] [ByteStream Target]
variable {Related : Source → Target → Prop}

section

variable (interspersed : Interspersed Related)
include interspersed

/-- Waiting for a reply ends in the same way, however much is passed over. -/
theorem awaitReply_interspersed
    (waiting : Waiting)
    {plain : Source}
    {busy : Target}
    (related : Related plain busy)
    (clock : Clock) :
    ∃ finish, Related (awaitReply waiting plain clock).stream finish ∧
      awaitReply waiting busy clock =
        ⟨(awaitReply waiting plain clock).awaited, finish,
          (awaitReply waiting plain clock).clock⟩ := by
  revert plain
  refine awaitReply_induction waiting
    (motive := fun busy clock waited =>
      ∀ {plain : Source}, Related plain busy →
        ∃ finish, Related (awaitReply waiting plain clock).stream finish ∧
          waited =
            ⟨(awaitReply waiting plain clock).awaited, finish,
              (awaitReply waiting plain clock).clock⟩)
    ?closed ?quiet ?ended ?passed busy clock
  case closed =>
    intro busy clock closed plain related
    rw [awaitReply_of_not_isOpen closed]
    exact ⟨busy, related, rfl⟩
  case quiet =>
    intro busy clock isOpen silent plain related
    rcases interspersed.readLine related with same | ⟨passedOver, _⟩
    · rw [awaitReply_of_isOpen isOpen, ← same.outcome]
      simp only [silent, if_true, Waiting.clockAfterRead, same.clockAfter]
      exact ⟨_, same.stream, rfl⟩
    · exact (passedOver.loud silent).elim
  case ended =>
    intro busy clock awaited isOpen loud found plain related
    rcases interspersed.readLine related with same | ⟨passedOver, _⟩
    · rw [awaitReply_of_isOpen isOpen, ← same.outcome]
      simp only [if_neg loud, found, Waiting.clockAfterRead, same.clockAfter]
      exact ⟨_, same.stream, rfl⟩
    · simp [passedOver.passed waiting] at found
  case passed =>
    intro busy clock waited isOpen loud missing induction plain related
    rcases interspersed.readLine related with same | ⟨passedOver, stays⟩
    · rw [awaitReply_of_isOpen isOpen, ← same.outcome]
      simp only [if_neg loud, missing]
      have rest := induction same.stream
      simp only [Waiting.clockAfterRead, same.clockAfter] at rest
      exact rest
    · have rest := induction stays
      rw [Waiting.clockAfterRead, passedOver.clockAfter] at rest
      exact rest

theorem exchange_interspersed
    {session : Session Source}
    {busy : Target}
    (related : Related session.stream busy)
    (frame : List Char)
    (limits : Limits)
    (started : Nat)
    (clock : Clock) :
    ∃ finish, Related (session.exchange frame limits started clock).stream finish ∧
      (session.onStream busy).exchange frame limits started clock =
        ⟨(session.exchange frame limits started clock).ending, finish,
          (session.exchange frame limits started clock).clock⟩ := by
  have written := interspersed.write (Text.Utf8.encode frame) related
  simp only [exchange, onStream, mapStream, written.outcome, written.clockAfter]
  cases (ByteStream.write (Text.Utf8.encode frame) session.stream).outcome with
  | error error => exact ⟨_, written.stream, rfl⟩
  | ok =>
    rcases awaitReply_interspersed interspersed (session.waitingFor limits started _)
      written.stream _ with ⟨finish, stays, waits⟩
    refine ⟨finish, stays, ?_⟩
    exact congrArg (fun waited => Exchanged.mk (.awaited waited.awaited) waited.stream
      waited.clock) waits

theorem sendFrame_interspersed
    (frame : List Char)
    (limits : Limits)
    (started : Nat)
    (policy : RetryPolicy)
    (done : Nat)
    (session : Session Source)
    (clock : Clock)
    {busy : Target}
    (related : Related session.stream busy) :
    ∃ finish,
      Related (sendFrame frame limits started policy done session clock).state.stream finish ∧
        sendFrame frame limits started policy done (session.onStream busy) clock =
          (sendFrame frame limits started policy done session clock).within (onStream finish) ∧
        endings frame limits started policy done (session.onStream busy) clock =
          endings frame limits started policy done session clock := by
  revert busy
  refine sendFrame_induction frame limits started policy
    (motive := fun done session clock step ended =>
      ∀ {busy : Target}, Related session.stream busy →
        ∃ finish, Related step.state.stream finish ∧
          sendFrame frame limits started policy done (session.onStream busy) clock =
            step.within (onStream finish) ∧
          endings frame limits started policy done (session.onStream busy) clock = ended)
    ?settled ?stopped ?resumed done session clock
  case settled =>
    intro done session clock result settled busy related
    rcases exchange_interspersed interspersed related frame limits started clock with
        ⟨finish, stays, exchanges⟩
    refine ⟨finish, stays, ?_⟩
    rw [sendFrame_eq, endings_eq]
    simp only [exchanges, settled, and_true]
    rfl
  case stopped =>
    intro done session clock error later unsettled stopped busy related
    rcases exchange_interspersed interspersed related frame limits started clock with
        ⟨finish, stays, exchanges⟩
    refine ⟨finish, stays, ?_⟩
    rw [sendFrame_eq, endings_eq]
    simp only [exchanges, unsettled, stopped, and_true]
    rfl
  case resumed =>
    intro done session clock later step rest unsettled resumed induction busy related
    rcases exchange_interspersed interspersed related frame limits started clock with
        ⟨middle, stays, exchanges⟩
    rcases induction stays with ⟨finish, ends, sends, tries⟩
    refine ⟨finish, ends, ?_⟩
    rw [sendFrame_eq, endings_eq]
    simp only [exchanges, unsettled, resumed]
    exact ⟨sends, congrArg (List.cons _) tries⟩

theorem dropStale_interspersed
    {session : Session Source}
    {busy : Target}
    (related : Related session.stream busy) :
    ∃ finish, Related session.dropStale.2.stream finish ∧
      (session.onStream busy).dropStale =
        (session.dropStale.1, session.dropStale.2.onStream finish) := by
  rcases interspersed.discardInput related with ⟨same, stays⟩
  simp only [dropStale, onStream, mapStream, same]
  split
  · cases (ByteStream.discardInput session.stream).1 <;> exact ⟨_, stays, rfl⟩
  · exact ⟨busy, related, rfl⟩

/-- A session cannot tell a stream from one that brings more of what is passed over. -/
theorem sendWithin_interspersed
    {session : Session Source}
    {busy : Target}
    (related : Related session.stream busy)
    (command : Command)
    (limits : Limits)
    (clock : Clock) :
    ∃ finish,
      Related (session.sendWithin command limits clock).state.stream finish ∧
        (session.onStream busy).sendWithin command limits clock =
          (session.sendWithin command limits clock).within (onStream finish) ∧
        (session.onStream busy).attempts command limits clock =
          session.attempts command limits clock := by
  have related : Related (session.numbered command).stream busy := related
  rcases dropStale_interspersed interspersed related with ⟨clean, stays, drops⟩
  refine sendWithin_cases session command limits clock
    (motive := fun step attempts =>
      ∃ finish, Related step.state.stream finish ∧
        (session.onStream busy).sendWithin command limits clock = step.within (onStream finish) ∧
        (session.onStream busy).attempts command limits clock = attempts)
    ?refused ?undropped ?dropped
  case refused =>
    intro error refused
    exact ⟨busy, related, sendWithin_of_refused (session.onStream busy) command refused⟩
  case undropped =>
    intro error admitted undropped
    rcases sendWithin_of_undropped (session.onStream busy) command admitted
      ((congrArg Prod.fst drops).trans undropped) with ⟨sends, tries⟩
    refine ⟨clean, stays, sends.trans ?_, tries⟩
    exact congrArg (fun dropped => Step.mk (.error error) dropped.2 clock) drops
  case dropped =>
    intro admitted dropped
    rcases sendWithin_of_dropped (session.onStream busy) command admitted
      ((congrArg Prod.fst drops).trans dropped) with ⟨sends, tries⟩
    rcases sendFrame_interspersed interspersed (session.codec.encode command).1 limits clock.now
      session.config.retry 0 _ clock stays with ⟨finish, ends, sendsOn, triesOn⟩
    have same : ((session.onStream busy).numbered command).dropStale.2 =
        (session.numbered command).dropStale.2.onStream clean :=
      congrArg Prod.snd drops
    rw [sends, tries, same]
    exact ⟨finish, ends, sendsOn, triesOn⟩

end

end Session

end RoverLink
