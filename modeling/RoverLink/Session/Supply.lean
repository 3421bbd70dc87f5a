import RoverLink.Session

/-!
# Sessions use up the supply of their stream

No operation of a session adds to the supply of its stream, and a request that is answered uses up a
part of it.  A caller that repeats a request for as long as it is answered therefore comes to an
end.
-/

namespace RoverLink.Session

variable {Stream : Type} [ByteStream Stream]

/-- Waiting for a reply adds nothing to the supply, and a reply uses up a part of it. -/
theorem supply_awaitReply
    (waiting : Waiting)
    (stream : Stream)
    (clock : Clock) :
    ByteStream.supply (awaitReply waiting stream clock).stream ≤ ByteStream.supply stream ∧
      ∀ reply, (awaitReply waiting stream clock).awaited = .reply reply →
        ByteStream.supply (awaitReply waiting stream clock).stream < ByteStream.supply stream := by
  fun_induction awaitReply waiting stream clock with
  | case1 => simp
  | case2 => simp
  | case3 stream clock _ _ response after text outcome line _ ih =>
    have less : ByteStream.supply response.stream < ByteStream.supply stream :=
      ByteStream.supply_readLine_lt stream (by simp_all [ReadOutcome.isRetried, response])
    exact ⟨by omega, fun reply answered => by have := ih.2 reply answered; omega⟩
  | case4 stream clock _ _ response after text outcome line reply _ =>
    have less : ByteStream.supply response.stream < ByteStream.supply stream :=
      ByteStream.supply_readLine_lt stream (by simp_all [ReadOutcome.isRetried, response])
    exact ⟨Nat.le_of_lt less, fun _ _ => less⟩
  | case5 stream =>
    exact ⟨ByteStream.supply_readLine stream, by simp⟩
  | case6 stream =>
    exact ⟨ByteStream.supply_readLine stream, by simp⟩
  | case7 stream clock _ _ response after outcome ih =>
    have less : ByteStream.supply response.stream < ByteStream.supply stream :=
      ByteStream.supply_readLine_lt stream (by simp_all [ReadOutcome.isRetried, response])
    exact ⟨by omega, fun reply answered => by have := ih.2 reply answered; omega⟩
  | case8 stream clock _ _ response after outcome =>
    refine ⟨ByteStream.supply_readLine stream, fun reply answered => ?_⟩
    simp only [Waiting.expired] at answered
    split at answered <;> simp at answered
  | case9 stream clock _ _ response after error outcome retried ih =>
    have less : ByteStream.supply response.stream < ByteStream.supply stream :=
      ByteStream.supply_readLine_lt stream (by simp_all [ReadOutcome.isRetried, response])
    exact ⟨by omega, fun reply answered => by have := ih.2 reply answered; omega⟩
  | case10 stream =>
    exact ⟨ByteStream.supply_readLine stream, by simp⟩

omit [ByteStream Stream] in
theorem stream_settle (session : Session Stream) (reply : Reply) (clock : Clock) :
    (session.settle reply clock).session.stream = session.stream := by
  rw [settle]
  split <;> rfl

/-- An attempt adds nothing to the supply, and one that is answered uses up a part of it. -/
theorem supply_attempt
    (session : Session Stream)
    (frame : List Char)
    (limits : Limits)
    (started : Nat)
    (clock : Clock) :
    ByteStream.supply (session.attempt frame limits started clock).session.stream ≤
        ByteStream.supply session.stream ∧
      ∀ reply, (session.attempt frame limits started clock).result = some (.ok reply) →
        ByteStream.supply (session.attempt frame limits started clock).session.stream <
          ByteStream.supply session.stream := by
  have written := ByteStream.supply_write (Text.Utf8.encode frame) session.stream
  rw [attempt]
  simp only
  split
  · exact ⟨written, by simp⟩
  · generalize Response.clockAfter _ _ _ clock = after
    have awaited := supply_awaitReply
      ⟨session.codec, session.config.replyTimeout, limits, started, after.now⟩
      (ByteStream.write (Text.Utf8.encode frame) session.stream).stream after
    split
    next reply answered =>
      rw [stream_settle]
      have less := awaited.2 reply answered
      exact ⟨Nat.le_trans awaited.1 written, fun _ _ => Nat.lt_of_lt_of_le less written⟩
    all_goals exact ⟨Nat.le_trans awaited.1 written, by simp⟩

/-- Repeated attempts add nothing to the supply, and an answer uses up a part of it. -/
theorem supply_sendFrame
    (frame : List Char)
    (limits : Limits)
    (started : Nat)
    (policy : RetryPolicy)
    (done : Nat)
    (session : Session Stream)
    (clock : Clock) :
    ByteStream.supply (sendFrame frame limits started policy done session clock).state.stream ≤
        ByteStream.supply session.stream ∧
      ∀ reply, (sendFrame frame limits started policy done session clock).result = .ok reply →
        ByteStream.supply (sendFrame frame limits started policy done session clock).state.stream <
          ByteStream.supply session.stream := by
  fun_induction sendFrame frame limits started policy done session clock with
  | case1 done session clock tried result settled =>
    have attempted := supply_attempt session frame limits started clock
    exact ⟨attempted.1, fun reply answered => attempted.2 reply (by simp_all [tried])⟩
  | case2 done session clock tried =>
    exact ⟨(supply_attempt session frame limits started clock).1, by simp⟩
  | case3 done session clock tried =>
    exact ⟨(supply_attempt session frame limits started clock).1, by simp⟩
  | case4 done session clock tried _ _ _ _ _ ih =>
    have attempted := (supply_attempt session frame limits started clock).1
    exact ⟨Nat.le_trans ih.1 attempted,
      fun reply answered => Nat.lt_of_lt_of_le (ih.2 reply answered) attempted⟩
  | case5 done session clock tried =>
    exact ⟨(supply_attempt session frame limits started clock).1, by simp⟩

theorem supply_dropStale (session : Session Stream) :
    ByteStream.supply session.dropStale.2.stream ≤ ByteStream.supply session.stream := by
  have dropped := ByteStream.supply_discardInput session.stream
  rw [dropStale]
  split
  · simp only
    split <;> exact dropped
  · exact Nat.le_refl _

/-- Sending adds nothing to the supply, and a reply uses up a part of it. -/
theorem supply_sendWithin
    (session : Session Stream)
    (command : Command)
    (limits : Limits)
    (clock : Clock) :
    ByteStream.supply (session.sendWithin command limits clock).state.stream ≤
        ByteStream.supply session.stream ∧
      ∀ reply, (session.sendWithin command limits clock).result = .ok reply →
        ByteStream.supply (session.sendWithin command limits clock).state.stream <
          ByteStream.supply session.stream := by
  have dropped := supply_dropStale
    { session with codec := (session.codec.encode command).2 }
  rw [sendWithin]
  simp only
  split
  · simp
  · split
    next error failed => exact ⟨dropped, by simp⟩
    next cleared =>
      have sent := supply_sendFrame (session.codec.encode command).1 limits clock.now
        session.config.retry 0
        (dropStale { session with codec := (session.codec.encode command).2 }).2 clock
      exact ⟨Nat.le_trans sent.1 dropped,
        fun reply answered => Nat.lt_of_lt_of_le (sent.2 reply answered) dropped⟩

end RoverLink.Session
