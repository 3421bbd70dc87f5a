import RoverLink.Proofs.Session.Attempts
import RoverLink.Proofs.Stream.Traced

/-!
# Sessions along maps of streams

A map between two types of streams that agrees with writing, reading and
dropping input carries every session along: sending over the first stream and
then mapping the stream is sending over the mapped stream (`sendWithin_map`).
The record of a traced stream can therefore be kept or left out without any
difference in results, and whatever is proved from the record holds of the
session over the plain stream.

The two streams need not bring the same lines.  It is enough that what they
bring means the same to the codec of the session, so a map may also leave out
the lines that the session skips (`sendWithin_codecMap`).
-/

namespace RoverLink

/-- A map of streams that agrees with all operations. -/
structure StreamMap (Source Target : Type) [ByteStream Source] [ByteStream Target] where
  toFun : Source → Target
  write_toFun : ∀ octets stream,
    ByteStream.write octets (toFun stream) =
      ⟨(ByteStream.write octets stream).outcome, (ByteStream.write octets stream).lapse,
        (ByteStream.write octets stream).cancels, toFun (ByteStream.write octets stream).stream⟩
  readLine_toFun : ∀ stream,
    ByteStream.readLine (toFun stream) =
      ⟨(ByteStream.readLine stream).outcome, (ByteStream.readLine stream).lapse,
        (ByteStream.readLine stream).cancels, toFun (ByteStream.readLine stream).stream⟩
  discardInput_toFun : ∀ stream,
    ByteStream.discardInput (toFun stream) =
      ((ByteStream.discardInput stream).1, toFun (ByteStream.discardInput stream).2)

/--
A map of streams that agrees with all operations, except that a read may bring
something else that means the same to a session with the codec.
-/
structure CodecMap
    (codec : Codec)
    (Source Target : Type)
    [ByteStream Source]
    [ByteStream Target] where
  toFun : Source → Target
  /-- What a read of the mapped stream brings instead. -/
  heard : ReadOutcome → ReadOutcome
  heard_eq_quiet_iff : ∀ outcome, heard outcome = .quiet ↔ outcome = .quiet
  endedBy?_heard : ∀ waiting : Session.Waiting, waiting.codec = codec →
    ∀ outcome, waiting.endedBy? (heard outcome) = waiting.endedBy? outcome
  write_toFun : ∀ octets stream,
    ByteStream.write octets (toFun stream) =
      ⟨(ByteStream.write octets stream).outcome, (ByteStream.write octets stream).lapse,
        (ByteStream.write octets stream).cancels, toFun (ByteStream.write octets stream).stream⟩
  readLine_toFun : ∀ stream,
    ByteStream.readLine (toFun stream) =
      ⟨heard (ByteStream.readLine stream).outcome, (ByteStream.readLine stream).lapse,
        (ByteStream.readLine stream).cancels, toFun (ByteStream.readLine stream).stream⟩
  discardInput_toFun : ∀ stream,
    ByteStream.discardInput (toFun stream) =
      ((ByteStream.discardInput stream).1, toFun (ByteStream.discardInput stream).2)

/-- A map that agrees with all operations is one for every codec. -/
def StreamMap.toCodecMap
    {Source Target : Type}
    [ByteStream Source]
    [ByteStream Target]
    (map : StreamMap Source Target)
    (codec : Codec) :
    CodecMap codec Source Target where
  toFun := map.toFun
  heard := id
  heard_eq_quiet_iff _ := Iff.rfl
  endedBy?_heard _ _ _ := rfl
  write_toFun := map.write_toFun
  readLine_toFun := map.readLine_toFun
  discardInput_toFun := map.discardInput_toFun

/-- Leaving out the record of a traced stream. -/
def Traced.forget {Stream : Type} [BufferedStream Stream] : StreamMap (Traced Stream) Stream where
  toFun := Traced.stream
  write_toFun _ _ := rfl
  readLine_toFun _ := rfl
  discardInput_toFun _ := rfl

namespace Session

section

variable {Source Target : Type}

/-- The session over a mapped stream. -/
def mapStream (map : Source → Target) (session : Session Source) : Session Target :=
  ⟨map session.stream, session.codec, session.config, session.commandsSent, session.staleInput⟩

end

variable {Source Target : Type} [ByteStream Source] [ByteStream Target]

/-! ### Maps for one codec -/

section

variable {codec : Codec} (map : CodecMap codec Source Target)

theorem clockAfterRead_codecMap
    (waiting : Waiting)
    (stream : Source)
    (clock : Clock) :
    waiting.clockAfterRead (map.toFun stream) clock = waiting.clockAfterRead stream clock := by
  simp only [Waiting.clockAfterRead, map.readLine_toFun]
  rfl

theorem awaitReply_codecMap
    (waiting : Waiting)
    (same : waiting.codec = codec)
    (stream : Source)
    (clock : Clock) :
    awaitReply waiting (map.toFun stream) clock =
      ⟨(awaitReply waiting stream clock).awaited,
        map.toFun (awaitReply waiting stream clock).stream,
        (awaitReply waiting stream clock).clock⟩ := by
  refine awaitReply_induction waiting
    (motive := fun stream clock waited =>
      awaitReply waiting (map.toFun stream) clock =
        ⟨waited.awaited, map.toFun waited.stream, waited.clock⟩)
    ?closed ?quiet ?ended ?passed stream clock
  case closed =>
    intro stream clock closed
    exact awaitReply_of_not_isOpen closed _
  case quiet =>
    intro stream clock isOpen silent
    rw [awaitReply_of_isOpen isOpen]
    simp only [map.readLine_toFun, map.heard_eq_quiet_iff, silent, if_true,
      clockAfterRead_codecMap]
  case ended =>
    intro stream clock awaited isOpen loud found
    rw [awaitReply_of_isOpen isOpen]
    simp only [map.readLine_toFun, map.heard_eq_quiet_iff, if_neg loud,
      map.endedBy?_heard waiting same, found, clockAfterRead_codecMap]
  case passed =>
    intro stream clock waited isOpen loud missing induction
    rw [awaitReply_of_isOpen isOpen]
    simp only [map.readLine_toFun, map.heard_eq_quiet_iff, if_neg loud,
      map.endedBy?_heard waiting same, missing, clockAfterRead_codecMap]
    exact induction

theorem exchange_codecMap
    {session : Session Source}
    (same : session.codec = codec)
    (frame : List Char)
    (limits : Limits)
    (started : Nat)
    (clock : Clock) :
    (session.mapStream map.toFun).exchange frame limits started clock =
      ⟨(session.exchange frame limits started clock).ending,
        map.toFun (session.exchange frame limits started clock).stream,
        (session.exchange frame limits started clock).clock⟩ := by
  simp only [exchange]
  simp only [mapStream, map.write_toFun, Response.clockAfter]
  cases (ByteStream.write (Text.Utf8.encode frame) session.stream).outcome with
  | error error => rfl
  | ok => exact congrArg (fun waited => Exchanged.mk (.awaited waited.awaited) waited.stream
      waited.clock) (awaitReply_codecMap map (session.waitingFor limits started _) same _ _)

theorem sendFrame_codecMap
    (frame : List Char)
    (limits : Limits)
    (started : Nat)
    (policy : RetryPolicy)
    (done : Nat)
    (session : Session Source)
    (clock : Clock)
    (same : session.codec = codec) :
    sendFrame frame limits started policy done (session.mapStream map.toFun) clock =
        (sendFrame frame limits started policy done session clock).within
          (mapStream map.toFun) ∧
      endings frame limits started policy done (session.mapStream map.toFun) clock =
        endings frame limits started policy done session clock := by
  revert same
  refine sendFrame_induction frame limits started policy
    (motive := fun done session clock step ended =>
      session.codec = codec →
        sendFrame frame limits started policy done (session.mapStream map.toFun) clock =
            step.within (mapStream map.toFun) ∧
          endings frame limits started policy done (session.mapStream map.toFun) clock = ended)
    ?settled ?stopped ?resumed done session clock
  case settled =>
    intro done session clock result settled same
    rw [sendFrame_eq, endings_eq]
    simp only [exchange_codecMap map same, settled, and_true]
    rfl
  case stopped =>
    intro done session clock error later unsettled stopped same
    rw [sendFrame_eq, endings_eq]
    simp only [exchange_codecMap map same, unsettled, stopped, and_true]
    rfl
  case resumed =>
    intro done session clock later step rest unsettled resumed induction same
    rw [sendFrame_eq, endings_eq]
    simp only [exchange_codecMap map same, unsettled, resumed]
    rcases induction same with ⟨steps, tries⟩
    exact ⟨steps, congrArg (List.cons _) tries⟩

theorem dropStale_codecMap (session : Session Source) :
    (session.mapStream map.toFun).dropStale =
      (session.dropStale.1, session.dropStale.2.mapStream map.toFun) := by
  simp only [dropStale]
  simp only [mapStream, map.discardInput_toFun]
  split
  · cases (ByteStream.discardInput session.stream).1 <;> rfl
  · rfl

/-- Sending over a mapped stream is sending, and then mapping the stream. -/
theorem sendWithin_codecMap
    {session : Session Source}
    {command : Command}
    (same : (session.codec.encode command).2 = codec)
    (limits : Limits)
    (clock : Clock) :
    (session.mapStream map.toFun).sendWithin command limits clock =
        (session.sendWithin command limits clock).within (mapStream map.toFun) ∧
      (session.mapStream map.toFun).attempts command limits clock =
        session.attempts command limits clock := by
  have dropped : ((session.mapStream map.toFun).numbered command).dropStale =
      ((session.numbered command).dropStale.1,
        (session.numbered command).dropStale.2.mapStream map.toFun) :=
    dropStale_codecMap map (session.numbered command)
  refine sendWithin_cases session command limits clock
    (motive := fun step attempts =>
      (session.mapStream map.toFun).sendWithin command limits clock =
          step.within (mapStream map.toFun) ∧
        (session.mapStream map.toFun).attempts command limits clock = attempts)
    ?refused ?undropped ?dropped
  case refused =>
    intro error refused
    exact sendWithin_of_refused (session.mapStream map.toFun) command refused
  case undropped =>
    intro error admitted undropped
    rcases sendWithin_of_undropped (session.mapStream map.toFun) command admitted
      ((congrArg Prod.fst dropped).trans undropped) with ⟨sends, tries⟩
    rw [sends, tries, dropped]
    exact ⟨rfl, rfl⟩
  case dropped =>
    intro admitted isDropped
    rcases sendWithin_of_dropped (session.mapStream map.toFun) command admitted
      ((congrArg Prod.fst dropped).trans isDropped) with ⟨sends, tries⟩
    rw [sends, tries, dropped]
    exact sendFrame_codecMap map _ _ _ _ _ _ _
      ((codec_dropStale_numbered session command).trans same)

end

/-! ### Maps for every codec -/

variable (map : StreamMap Source Target)

theorem clockAfterRead_map
    (waiting : Waiting)
    (stream : Source)
    (clock : Clock) :
    waiting.clockAfterRead (map.toFun stream) clock = waiting.clockAfterRead stream clock :=
  clockAfterRead_codecMap (map.toCodecMap waiting.codec) waiting stream clock

/-- Sending over a mapped stream is sending, and then mapping the stream. -/
theorem sendWithin_map
    (session : Session Source)
    (command : Command)
    (limits : Limits)
    (clock : Clock) :
    (session.mapStream map.toFun).sendWithin command limits clock =
      (session.sendWithin command limits clock).within (mapStream map.toFun) :=
  (sendWithin_codecMap (map.toCodecMap _) rfl limits clock).1

theorem attempts_map
    (session : Session Source)
    (command : Command)
    (limits : Limits)
    (clock : Clock) :
    (session.mapStream map.toFun).attempts command limits clock =
      session.attempts command limits clock :=
  (sendWithin_codecMap (map.toCodecMap _) rfl limits clock).2

end Session

end RoverLink
