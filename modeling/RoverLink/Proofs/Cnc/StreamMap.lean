import RoverLink.Proofs.Cnc.Polling
import RoverLink.Proofs.Device.StreamMap

/-!
# Stepper boards along maps of streams

A wait over a mapped stream is the wait, and then mapping the stream, so the log
of a stream can be kept or left out without any difference.
-/

namespace RoverLink.Cnc

variable {Source Target : Type}

/-- The board over a mapped stream. -/
def mapStream (map : Source → Target) (cnc : Cnc Source) : Cnc Target :=
  ⟨cnc.device.mapStream map, cnc.state⟩

variable [ByteStream Source] [ByteStream Target] (map : StreamMap Source Target)

theorem poll_map
    (cnc : Cnc Source)
    (limits : Limits)
    (clock : Clock) :
    (cnc.mapStream map.toFun).poll limits clock =
      (cnc.poll limits clock).within (mapStream map.toFun) := by
  have asked : (cnc.mapStream map.toFun).device.executeWithin pollCommand limits clock =
      (cnc.device.executeWithin pollCommand limits clock).within
        (Device.mapStream map.toFun) := by
    simp only [Device.executeWithin, mapStream, Device.transmit_map]
    rw [show (cnc.device.mapStream map.toFun).isConfigured = cnc.device.isConfigured from rfl]
    split <;> rfl
  simp only [poll, asked, Step.result_within]
  cases (cnc.device.executeWithin pollCommand limits clock).result with
  | error error => rfl
  | ok reply =>
    dsimp only
    cases reply.integer 0 <;> rfl

theorem waitFrom_map
    (options : WaitOptions)
    (started : Nat)
    (deadline : Option Nat)
    (first : Inquiry Source) :
    waitFrom options started deadline (first.cnc.mapStream map.toFun) first.clock =
      (waitFrom options started deadline first.cnc first.clock).within
        (mapStream map.toFun) := by
  -- The supply of the stream bounds the number of answers.
  induction size : ByteStream.supply first.cnc.device.session.stream using Nat.strongRecOn
    generalizing first with
  | ind size induction =>
    rw [waitFrom_eq options started deadline first,
      waitFrom_eq options started deadline ⟨first.cnc.mapStream map.toFun, first.clock⟩]
    simp only [Inquiry.step, poll_map, Step.result_within, Step.clock_within, Step.state_within]
    by_cases cancelled : (options.heedsToken && first.clock.isCancelled) = true
    · rw [if_pos cancelled, if_pos cancelled]
      rfl
    · rw [if_neg cancelled, if_neg cancelled]
      cases answer : (first.cnc.poll ⟨deadline, options.heedsToken⟩ first.clock).result with
      | error error => rfl
      | ok busy =>
        cases busy with
        | false => rfl
        | true =>
          have less := supply_poll_lt first.cnc _ first.clock true answer
          dsimp only
          cases waitPause options started
              (first.cnc.poll ⟨deadline, options.heedsToken⟩ first.clock).clock with
          | error error => rfl
          | ok later => exact induction _ (size ▸ less) ⟨_, later⟩ rfl

/-- A wait over a mapped stream is the wait, and then mapping the stream. -/
theorem wait_map
    (cnc : Cnc Source)
    (options : WaitOptions)
    (clock : Clock) :
    (cnc.mapStream map.toFun).wait options clock =
      (cnc.wait options clock).within (mapStream map.toFun) := by
  by_cases named : options.IsNamed clock
  · rw [(cnc.wait_of_isNamed named).2, ((cnc.mapStream map.toFun).wait_of_isNamed named).2]
    exact waitFrom_map map options clock.now (options.deadline clock) ⟨cnc, clock⟩
  · rw [(cnc.wait_of_not_isNamed named).2, ((cnc.mapStream map.toFun).wait_of_not_isNamed named).2]
    rfl

end RoverLink.Cnc
