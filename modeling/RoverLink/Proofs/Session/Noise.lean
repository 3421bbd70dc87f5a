import RoverLink.Proofs.Session.Delivery
import RoverLink.Proofs.Stream.Noise

/-!
# Sessions ignore noise

Noise may arrive anywhere: before a reply, behind it, instead of one, or among
what an earlier command has left over.  It changes neither how commands end nor
what is written, and input is dropped at the same places (`ignores_noise`).
Both are read off a log of the stream, which takes no part in this
(`deliverAll_forget`).
-/

namespace RoverLink

/-! ### What a session does to its stream -/

/-- Whether something was read. -/
def Access.isRead : Access → Bool
  | .read _ => true
  | _ => false

namespace Logged

/-- What was written and dropped, without what was read in between. -/
def effects {Stream : Type} (logged : Logged Stream) : List Access :=
  logged.log.filter fun access => !access.isRead

section

variable {Stream : Type} [ByteStream Stream]

theorem effects_write (octets : List UInt8) (logged : Logged Stream) :
    (ByteStream.write octets logged).stream.effects =
      logged.effects ++ [.write octets (ByteStream.write octets logged.stream).outcome] :=
  List.filter_append ..

theorem effects_readLine (logged : Logged Stream) :
    (ByteStream.readLine logged).stream.effects = logged.effects :=
  (List.filter_append ..).trans (List.append_nil _)

theorem effects_discardInput (logged : Logged Stream) :
    (ByteStream.discardInput logged).2.effects =
      logged.effects ++ [.discard (ByteStream.discardInput logged.stream).1] :=
  List.filter_append ..

end

variable {Source Target : Type}

/-- Whether streams are related, and the same was written to both and dropped from both. -/
structure Alongside
    (Related : Source → Target → Prop)
    (first : Logged Source)
    (second : Logged Target) :
    Prop where
  stream : Related first.stream second.stream
  effects : second.effects = first.effects

/-- Streams that do the same apart from what is passed over have the same done to them. -/
theorem interspersed_alongside
    [ByteStream Source]
    [ByteStream Target]
    {Related : Source → Target → Prop}
    (interspersed : Interspersed Related) :
    Interspersed (Alongside Related) where
  write octets first second alongside := by
    have written := interspersed.write octets alongside.stream
    refine ⟨written.outcome, written.lapse, written.cancels, written.stream, ?_⟩
    rw [effects_write, effects_write, alongside.effects, written.outcome]
  readLine {first second} alongside := by
    have effects : (ByteStream.readLine second).stream.effects = first.effects := by
      rw [effects_readLine, alongside.effects]
    rcases interspersed.readLine alongside.stream with same | ⟨passedOver, stays⟩
    · refine .inl ⟨same.outcome, same.lapse, same.cancels, same.stream, ?_⟩
      rw [effects, effects_readLine]
    · refine .inr ⟨?_, stays, effects⟩
      exact ⟨passedOver.loud, passedOver.lapse, passedOver.cancels, passedOver.passed⟩
  discardInput {first second} alongside := by
    rcases interspersed.discardInput alongside.stream with ⟨same, stays⟩
    refine ⟨same, stays, ?_⟩
    rw [effects_discardInput, effects_discardInput, alongside.effects, same]

end Logged

/-! ### The same commands over two streams -/

/--
The same command with the same limits at the same time, where what the streams
do on their own keeps them related.
-/
structure Sending.Alike
    {Source Target : Type}
    (Related : Source → Target → Prop)
    (first : Sending Source)
    (second : Sending Target) :
    Prop where
  meanwhile : ∀ {plain : Source} {busy : Target}, Related plain busy →
    Related (first.meanwhile plain) (second.meanwhile busy)
  command : second.command = first.command
  limits : second.limits = first.limits
  clock : second.clock = first.clock

theorem Sending.Alike.prompt
    {Source Target : Type}
    (Related : Source → Target → Prop)
    (command : Command)
    (limits : Limits)
    (clock : Clock) :
    Alike Related (.prompt command limits clock) (.prompt command limits clock) :=
  ⟨id, rfl, rfl, rfl⟩

namespace Session

section

variable {Stream : Type} [ByteStream Stream]

/-- How commands end, one after the other, and when. -/
def outcomes
    (session : Session (Logged Stream)) :
    List (Sending Stream) → List (Except Error Reply × Clock)
  | [] => []
  | sending :: sendings =>
    ((session.deliver sending).result, (session.deliver sending).clock) ::
      outcomes (session.deliver sending).state sendings

end

variable {Source Target : Type} [ByteStream Source] [ByteStream Target]
variable {Related : Source → Target → Prop}

/-- A command ends in the same way over streams that differ in what is passed over. -/
theorem deliver_interspersed
    (interspersed : Interspersed Related)
    {session : Session (Logged Source)}
    {busy : Logged Target}
    (alongside : Logged.Alongside Related session.stream busy)
    {sending : Sending Source}
    {other : Sending Target}
    (alike : sending.Alike Related other) :
    ∃ finish, Logged.Alongside Related (session.deliver sending).state.stream finish ∧
      (session.onStream busy).deliver other =
        (session.deliver sending).within (onStream finish) := by
  have ready : Logged.Alongside Related (session.ready sending).stream
      (busy.meanwhile other.meanwhile) :=
    ⟨alike.meanwhile alongside.stream, alongside.effects⟩
  rcases sendWithin_interspersed (Logged.interspersed_alongside interspersed) ready
    sending.command sending.limits sending.clock with ⟨finish, stays, sends, _⟩
  refine ⟨finish, stays, ?_⟩
  rw [deliver, alike.command, alike.limits, alike.clock]
  exact sends

/-- So do commands one after the other. -/
theorem deliverAll_interspersed
    (interspersed : Interspersed Related)
    {sendings : List (Sending Source)}
    {others : List (Sending Target)}
    (alike : List.Forall₂ (Sending.Alike Related) sendings others)
    {session : Session (Logged Source)}
    {busy : Logged Target}
    (alongside : Logged.Alongside Related session.stream busy) :
    ∃ finish, Logged.Alongside Related (session.deliverAll sendings).stream finish ∧
      (session.onStream busy).deliverAll others = (session.deliverAll sendings).onStream finish ∧
      (session.onStream busy).outcomes others = session.outcomes sendings := by
  induction alike generalizing session busy with
  | nil => exact ⟨busy, alongside, rfl, rfl⟩
  | @cons sending other sendings others alike _ induction =>
    rcases deliver_interspersed interspersed alongside alike with ⟨middle, stays, delivers⟩
    rcases induction stays with ⟨finish, ends, deliversAll, outcomes⟩
    refine ⟨finish, ends, ?_, ?_⟩
    · rw [deliverAll, List.foldl_cons, delivers]
      exact deliversAll
    · rw [Session.outcomes, Session.outcomes, delivers]
      exact congrArg (List.cons _) outcomes

/-- What noise does not change about commands that are sent one after the other. -/
structure IgnoresNoise
    (session noisy : Session (Logged Scripted))
    (sendings others : List (Sending Scripted)) :
    Prop where
  /-- Every command ends in the same way and at the same time. -/
  outcomes : noisy.outcomes others = session.outcomes sendings
  /-- The same is written, and input is dropped between the same writes. -/
  effects : (noisy.deliverAll others).stream.effects = (session.deliverAll sendings).stream.effects
  commandsSent : (noisy.deliverAll others).commandsSent = (session.deliverAll sendings).commandsSent
  /-- The next command drops the input in both cases or in none. -/
  staleInput : (noisy.deliverAll others).staleInput = (session.deliverAll sendings).staleInput

/-- A session does the same over a stream with noise in it as without. -/
theorem ignores_noise
    (config : SessionConfig)
    {plain noisy : Scripted}
    (noisier : plain.Noisier noisy)
    {sendings others : List (Sending Scripted)}
    (alike : List.Forall₂ (Sending.Alike Scripted.Noisier) sendings others) :
    IgnoresNoise (.new (Logged.start plain) config) (.new (Logged.start noisy) config)
      sendings others := by
  have start : Logged.Alongside Scripted.Noisier
      (Session.new (Logged.start plain) config).stream (Logged.start noisy) :=
    ⟨noisier, rfl⟩
  rcases deliverAll_interspersed Scripted.interspersed_noisier alike start with
      ⟨finish, ends, deliversAll, outcomes⟩
  have same : (Session.new (Logged.start noisy) config).deliverAll others =
      ((Session.new (Logged.start plain) config).deliverAll sendings).onStream finish :=
    deliversAll
  constructor
  case outcomes => exact outcomes
  case effects =>
    rw [same]
    exact ends.effects
  case commandsSent => rw [same]; rfl
  case staleInput => rw [same]; rfl

/-- A device that leaves the first request without an answer and answers the second one. -/
def forgetful : Scripted :=
  (Scripted.empty.reply []).reply [.line ['#', '[', '0', ',', '7', ']']]

/-- The same device, which also sends a greeting, log lines and half a frame. -/
def chatty : Scripted :=
  ((Scripted.empty.push (.line ['h', 'i'])).reply
    [.line ['#', '!', 'l', 'o', 'g'], .event (.failure .timedOut none) none]).reply
      [.line [' ', '#', '[', '0', ',', '7'], .line ['#', '[', '0', ',', '7', ']'], .line []]

theorem noisier_chatty : forgetful.Noisier chatty where
  script :=
    .cons (.insert (.line .log) (.insert (.failure (.inl rfl)) .nil))
      (.cons (.insert (.line (@IsNoise.truncated [] _ (by decide) (by decide)))
        (.keep (.insert (.line (.unmarked (by decide))) .nil))) .nil)
  readable := .insert (.line (.unmarked (by decide))) .nil
  connected := rfl
  failsDiscard := rfl
  keepsInput := rfl

/-- Two requests to this device: the second one drops the input, and only it is answered. -/
theorem ignores_noise_chatty :
    let config : SessionConfig := ⟨.withoutBackoff 1, .ofMilliseconds 1000, .placeholder⟩
    let sendings : List (Sending Scripted) :=
      List.replicate 2 (.prompt (.query 'e' (by decide)) .none .start)
    forgetful.Noisier chatty ∧
      IgnoresNoise (.new (Logged.start forgetful) config) (.new (Logged.start chatty) config)
        sendings sendings ∧
      (outcomes (.new (Logged.start chatty) config) sendings).map
        (fun outcome => outcome.1.toOption.map Reply.values) =
          [none, some [.number (Decimal.Binary64.ofInt 7)]] := by
  refine ⟨noisier_chatty, ignores_noise _ noisier_chatty ?_, by decide +kernel⟩
  exact .cons (.prompt ..) (.cons (.prompt ..) .nil)

end Session

end RoverLink
