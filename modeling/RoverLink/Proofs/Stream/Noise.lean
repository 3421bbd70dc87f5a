import RoverLink.Proofs.Reply.Layout
import RoverLink.Proofs.Session.Interspersed
import RoverLink.Stream.Scripted

/-!
# Noise on a scripted stream

Noise is what a device sends besides its replies, and what a reader sees while
nothing arrives: lines that are no frames, log lines, frames that were cut off,
and reads that fail only because nothing has arrived yet.  `Noisier` says that
one list of arrivals is another one with noise anywhere in between.

A noisier stream brings what the plain one brings, and in between what every
wait passes over (`interspersed_noisier`).
-/

namespace RoverLink

/-! ### Lines -/

/-- The lines without meaning, when the blanks around them are cut off. -/
inductive IsNoise : List Char → Prop where
  /-- The line does not start like a message of the device. -/
  | unmarked {line : List Char}
      (start : line.head? ≠ some '#') :
      IsNoise line
  /-- A log line of the firmware. -/
  | log {text : List Char} : IsNoise ('#' :: '!' :: text)
  /-- A frame whose list of values is opened and not closed. -/
  | truncated {before behind : List Char}
      (first : '[' ∉ before)
      (unclosed : ']' ∉ behind) :
      IsNoise ('#' :: (before ++ '[' :: behind))

/-- No session ends a wait with noise. -/
theorem judge_of_isNoise
    {line : List Char}
    (noise : IsNoise line)
    (codec : Codec) :
    codec.judge line = .skipped := by
  cases noise with
  | unmarked start =>
    have kind : LineKind.ofLine line = .noise := by
      cases line with
      | nil => rfl
      | cons mark rest =>
        have other : mark ≠ '#' := by simpa using start
        simp [LineKind.ofLine, other]
    rw [Codec.judge, kind]
  | log => rfl
  | @truncated before behind first unclosed =>
    have read := Reply.read_of_unclosed first unclosed
    rw [Codec.judge]
    split
    · rfl
    · rfl
    · rw [read]

/-! ### Arrivals -/

/-- The arrivals that tell nothing to a reader and take no time. -/
inductive Arrival.IsIdle : Arrival → Prop where
  | line {text : List Char}
      (noise : IsNoise (Text.trim text)) :
      Arrival.IsIdle (.line text)
  /-- A read fails because nothing has arrived yet. -/
  | failure {kind : IoErrorKind} {message : Option String} {text : Option (List Char)}
      (early : kind = .timedOut ∨ kind = .wouldBlock ∨ kind = .interrupted) :
      Arrival.IsIdle (.event (.failure kind message) text)

/-- Whether the second list of arrivals is the first one with idle arrivals in between. -/
inductive Noisier : List Arrival → List Arrival → Prop where
  | nil : Noisier [] []
  | keep {arrival : Arrival} {plain noisy : List Arrival}
      (rest : Noisier plain noisy) :
      Noisier (arrival :: plain) (arrival :: noisy)
  | insert {arrival : Arrival} {plain noisy : List Arrival}
      (idle : arrival.IsIdle)
      (rest : Noisier plain noisy) :
      Noisier plain (arrival :: noisy)

theorem Noisier.refl (arrivals : List Arrival) : Noisier arrivals arrivals := by
  induction arrivals with
  | nil => exact .nil
  | cons arrival rest induction => exact .keep induction

theorem Noisier.append
    {plain noisy others louder : List Arrival}
    (front : Noisier plain noisy)
    (back : Noisier others louder) :
    Noisier (plain ++ others) (noisy ++ louder) := by
  induction front with
  | nil => exact back
  | keep _ induction => exact .keep induction
  | insert idle _ induction => exact .insert idle induction

namespace Scripted

/-- Idle arrivals are passed over. -/
theorem isPassedOver_receive
    (stream : Scripted)
    {arrival : Arrival}
    (idle : arrival.IsIdle) :
    (stream.receive arrival).IsPassedOver := by
  cases idle with
  | @line text noise =>
    refine ⟨by simp [receive], rfl, rfl, ?_⟩
    intro waiting
    simp [receive, Session.Waiting.endedBy?, judge_of_isNoise noise waiting.codec]
  | failure early =>
    refine ⟨by simp [receive], rfl, rfl, ?_⟩
    intro waiting
    rcases early with rfl | rfl | rfl <;> rfl

/--
Whether the second stream has noise in between what can be read, and in between
what will be released, and is otherwise like the first one.
-/
structure Noisier (plain noisy : Scripted) : Prop where
  script : List.Forall₂ RoverLink.Noisier plain.script noisy.script
  readable : RoverLink.Noisier plain.readable noisy.readable
  connected : noisy.connected = plain.connected
  failsDiscard : noisy.failsDiscard = plain.failsDiscard
  keepsInput : noisy.keepsInput = plain.keepsInput

variable {plain noisy : Scripted}

theorem Noisier.write
    (noisier : plain.Noisier noisy)
    (octets : List UInt8) :
    (plain.write octets).Matches Noisier (noisy.write octets) := by
  rcases plain with ⟨batches, arrivals, written, discarded, connected, fails, keeps⟩
  rcases noisy with ⟨others, louder, sent, dropped, linked, refuses, holds⟩
  rcases noisier with ⟨script, readable, same, sameFails, sameKeeps⟩
  obtain rfl : linked = connected := same
  cases linked with
  | false => exact ⟨rfl, rfl, rfl, script, readable, rfl, sameFails, sameKeeps⟩
  | true =>
    cases script with
    | nil => exact ⟨rfl, rfl, rfl, .nil, readable, rfl, sameFails, sameKeeps⟩
    | cons batch rest =>
      exact ⟨rfl, rfl, rfl, rest, readable.append batch, rfl, sameFails, sameKeeps⟩

/-- Receiving the same arrival keeps one stream noisier than the other. -/
theorem Noisier.receive
    (noisier : plain.Noisier noisy)
    (arrival : Arrival) :
    (plain.receive arrival).Matches Noisier (noisy.receive arrival) := by
  rcases arrival with text | ⟨event, text⟩
  · exact ⟨rfl, rfl, rfl, noisier⟩
  · cases event with
    | unplug => exact ⟨rfl, rfl, rfl, { noisier with connected := rfl }⟩
    | _ => exact ⟨rfl, rfl, rfl, noisier⟩

/-- A read brings noise, or what it brings without the noise. -/
theorem Noisier.readLine (noisier : plain.Noisier noisy) :
    plain.readLine.Matches Noisier noisy.readLine ∨
      noisy.readLine.IsPassedOver ∧ plain.Noisier noisy.readLine.stream := by
  rcases plain with ⟨batches, arrivals, written, discarded, connected, fails, keeps⟩
  rcases noisy with ⟨others, louder, sent, dropped, linked, refuses, holds⟩
  rcases noisier with ⟨script, readable, same, sameFails, sameKeeps⟩
  obtain rfl : linked = connected := same
  cases linked with
  | false => exact .inl ⟨rfl, rfl, rfl, script, readable, rfl, sameFails, sameKeeps⟩
  | true =>
    cases readable with
    | nil => exact .inl ⟨rfl, rfl, rfl, script, .nil, rfl, sameFails, sameKeeps⟩
    | @keep arrival quiet loud rest =>
      have taken : Noisier ⟨batches, quiet, written, discarded, true, fails, keeps⟩
          ⟨others, loud, sent, dropped, true, refuses, holds⟩ :=
        ⟨script, rest, rfl, sameFails, sameKeeps⟩
      exact .inl (taken.receive arrival)
    | insert idle rest =>
      refine .inr ⟨isPassedOver_receive _ idle, ?_⟩
      cases idle <;> exact ⟨script, rest, rfl, sameFails, sameKeeps⟩

theorem Noisier.discardInput (noisier : plain.Noisier noisy) :
    noisy.discardInput.1 = plain.discardInput.1 ∧
      plain.discardInput.2.Noisier noisy.discardInput.2 := by
  rcases plain with ⟨batches, arrivals, written, discarded, connected, fails, keeps⟩
  rcases noisy with ⟨others, louder, sent, dropped, linked, refuses, holds⟩
  rcases noisier with ⟨script, readable, sameConnected, sameFails, sameKeeps⟩
  obtain rfl : refuses = fails := sameFails
  obtain rfl : holds = keeps := sameKeeps
  cases holds with
  | true => exact ⟨rfl, script, readable, sameConnected, rfl, rfl⟩
  | false =>
    cases refuses with
    | true => exact ⟨rfl, script, readable, sameConnected, rfl, rfl⟩
    | false => exact ⟨rfl, script, .nil, sameConnected, rfl, rfl⟩

/-- A noisier stream brings more, but nothing that ends a wait. -/
theorem interspersed_noisier : Interspersed Noisier where
  write octets _ _ noisier := noisier.write octets
  readLine noisier := noisier.readLine
  discardInput noisier := noisier.discardInput

end Scripted

end RoverLink
