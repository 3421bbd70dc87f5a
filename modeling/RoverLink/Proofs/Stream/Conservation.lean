import Mathlib.Data.List.Induction
import RoverLink.Proofs.Stream.Buffered

/-!
# The account of a scripted stream

A `Ledger` is a scripted stream with an account of what was done with it: the
batches that were scripted, the numbers of those that writes have released, the
lines that were made readable, and the lines that were taken out again, by
reads or because input was dropped.  The account never looks at the script
inside of the stream: which batch a write releases is said by the numbers of
the batches alone (`oldest?`).

After any actions in any order, beginning with an empty stream, the account and
the stream agree (`conserves_lines`).  So no line is lost, none comes twice and
none overtakes another.
-/

namespace RoverLink.Scripted

/-! ### Actions -/

/-- What is done with a stream that is scripted with lines only. -/
inductive Action where
  /-- A batch of lines is scripted. -/
  | reply (lines : List (List Char))
  /-- A batch of one line is scripted. -/
  | replyLine (line : List Char)
  /-- A batch of one line is scripted several times. -/
  | replyRepeated (line : List Char) (count : Nat)
  /-- A line is made readable without a write. -/
  | push (line : List Char)
  | write (octets : List UInt8)
  | read
  | discard
  | disconnect
  deriving DecidableEq

namespace Action

/-- The stream after an action. -/
@[simp]
def next (stream : Scripted) : Action → Scripted
  | reply lines => stream.reply (lines.map .line)
  | replyLine line => stream.reply [.line line]
  | replyRepeated line count => stream.replyRepeated (.line line) count
  | push line => stream.push (.line line)
  | write octets => (stream.write octets).stream
  | read => stream.readLine.stream
  | discard => stream.discardInput.2
  | disconnect => stream.disconnect

/-- The failure that an action ends with, if it fails. -/
@[simp]
def failure? (stream : Scripted) : Action → Option IoError
  | write octets =>
    match (stream.write octets).outcome with
    | .ok () => none
    | .error error => some error
  | read =>
    match stream.readLine.outcome with
    | .failed error => some error
    | _ => none
  | discard =>
    match stream.discardInput.1 with
    | .ok () => none
    | .error error => some error
  | _ => none

/-- The batches that an action scripts, oldest first. -/
@[simp]
def batches : Action → List (List (List Char))
  | reply lines => [lines]
  | replyLine line => [[line]]
  | replyRepeated line count => List.replicate count [line]
  | _ => []

/-- Whether an action needs the device to be connected. -/
def needsDevice : Action → Bool
  | write _ => true
  | read => true
  | _ => false

end Action

/-! ### Ledgers -/

/-- A line that was taken out of a stream. -/
inductive Removal where
  | read (line : List Char)
  | dropped (line : List Char)
  deriving DecidableEq

namespace Removal

def line : Removal → List Char
  | read line => line
  | dropped line => line

/-- The line, if it was dropped unread. -/
def dropped? : Removal → Option (List Char)
  | read _ => none
  | dropped line => some line

@[simp]
theorem map_line_map_dropped (lines : List (List Char)) :
    (lines.map dropped).map line = lines := by
  simp [Function.comp_def, line]

@[simp]
theorem filterMap_dropped?_map_dropped (lines : List (List Char)) :
    (lines.map dropped).filterMap dropped? = lines := by
  simp [List.filterMap_map, Function.comp_def, dropped?]

end Removal

/-- A stream with an account of the actions on it. -/
structure Ledger where
  stream : Scripted
  /-- The batches that were scripted, oldest first. -/
  batches : List (List (List Char))
  /-- The numbers of the batches that were released, in the order of the writes. -/
  released : List Nat
  /-- The lines that were made readable, oldest first. -/
  arrived : List (List Char)
  /-- The lines that were taken out, in the order in which this happened. -/
  removed : List Removal

namespace Ledger

/-- An empty stream with an empty account. -/
def start : Ledger :=
  ⟨.empty, [], [], [], []⟩

/-- The lines that can be read. -/
def pending (ledger : Ledger) : List (List Char) :=
  linesOf ledger.stream.readable

/-- The lines that were dropped unread, oldest first. -/
def dropped (ledger : Ledger) : List (List Char) :=
  ledger.removed.filterMap Removal.dropped?

/-- The lines of the batch with a number. -/
def batch (ledger : Ledger) (number : Nat) : List (List Char) :=
  ledger.batches[number]?.getD []

/-- The number of the oldest batch that was not released, if there is one. -/
def oldest? (ledger : Ledger) : Option Nat :=
  (List.range ledger.batches.length).find? fun number => number ∉ ledger.released

/-- The number of the batch that an action releases: only a write that succeeds releases one. -/
@[simp]
def releases? (ledger : Ledger) : Action → Option Nat
  | .write octets =>
    match (ledger.stream.write octets).outcome with
    | .ok () => ledger.oldest?
    | .error _ => none
  | _ => none

/-- The lines that an action makes readable. -/
@[simp]
def arriving (ledger : Ledger) : Action → List (List Char)
  | .push line => [line]
  | action => (ledger.releases? action).elim [] ledger.batch

/-- The lines that an action takes out: what a read answers, or all that can be read. -/
@[simp]
def removing (ledger : Ledger) : Action → List Removal
  | .read => ledger.stream.readLine.outcome.lines.map .read
  | .discard =>
    match ledger.stream.discardInput.1 with
    | .ok () => ledger.pending.map .dropped
    | .error _ => []
  | _ => []

def step (ledger : Ledger) (action : Action) : Ledger where
  stream := action.next ledger.stream
  batches := ledger.batches ++ action.batches
  released := ledger.released ++ (ledger.releases? action).toList
  arrived := ledger.arrived ++ ledger.arriving action
  removed := ledger.removed ++ ledger.removing action

def run (actions : List Action) : Ledger :=
  actions.foldl step start

@[simp]
theorem run_concat (actions : List Action) (action : Action) :
    run (actions ++ [action]) = (run actions).step action := by
  simp [run]

theorem batches_run (actions : List Action) :
    (run actions).batches = actions.flatMap Action.batches := by
  induction actions using List.reverseRecOn with
  | nil => rfl
  | append_singleton actions action induction => simp [step, induction]

/-- The account of a ledger agrees with its stream. -/
structure IsBalanced (ledger : Ledger) : Prop where
  /-- The lines made readable are those taken out, in their order, and those that can be read. -/
  lines : ledger.arrived = ledger.removed.map Removal.line ++ ledger.pending
  /-- Nothing else can be read. -/
  readable : ledger.stream.readable = ledger.pending.map .line
  /-- The stream keeps the lines that were dropped. -/
  discarded : ledger.stream.discarded = ledger.dropped.map .line
  /-- Batches are released in the order of the script, and none twice. -/
  ordered : ledger.released = List.range ledger.released.length
  within : ledger.released.length ≤ ledger.batches.length
  /-- The other batches are still to come, in their order. -/
  waiting : ledger.stream.script =
    (ledger.batches.drop ledger.released.length).map (List.map .line)
  /-- Dropping input drops all that can be read. -/
  drops : ledger.stream.keepsInput = false ∧ ledger.stream.failsDiscard = false

theorem isBalanced_start : start.IsBalanced where
  lines := rfl
  readable := rfl
  discarded := rfl
  ordered := rfl
  within := Nat.le_refl _
  waiting := rfl
  drops := ⟨rfl, rfl⟩

variable {ledger : Ledger}

/-! ### Which batch is next -/

theorem find?_notMem_range (total count : Nat) :
    (List.range total).find? (fun number => number ∉ List.range count) =
      if count < total then some count else none := by
  split
  case isTrue fewer =>
    rw [List.find?_range_eq_some]
    simp [fewer]
  case isFalse all =>
    rw [List.find?_range_eq_none]
    intro number inside
    simp only [List.mem_range, decide_not, Bool.not_not, decide_eq_true_eq]
    omega

theorem IsBalanced.oldest?_eq (balanced : ledger.IsBalanced) :
    ledger.oldest? =
      if ledger.released.length < ledger.batches.length then
        some ledger.released.length
      else none := by
  rw [oldest?, balanced.ordered, find?_notMem_range, List.length_range]

/-- The stream has the lines of that batch at the head of its script. -/
theorem IsBalanced.head?_script (balanced : ledger.IsBalanced) :
    ledger.stream.script.head?.getD [] =
      (ledger.oldest?.elim [] ledger.batch).map .line := by
  rw [balanced.waiting, balanced.oldest?_eq, List.head?_map, List.head?_drop]
  split
  case isTrue fewer => simp [batch, fewer]
  case isFalse all => simp [List.getElem?_eq_none (Nat.le_of_not_lt all)]

/-! ### What a step does -/

theorem step_write
    (connected : ledger.stream.connected = true)
    (octets : List UInt8) :
    ledger.step (.write octets) =
      { ledger with
        stream := { ledger.stream with
          script := ledger.stream.script.tail
          readable := ledger.stream.readable ++ ledger.stream.script.head?.getD []
          written := ledger.stream.written ++ [octets] }
        released := ledger.released ++ ledger.oldest?.toList
        arrived := ledger.arrived ++ ledger.oldest?.elim [] ledger.batch } := by
  simp [step, write_of_connected connected]

/-- A read answers with the first line and takes it out, if there is one. -/
theorem IsBalanced.readLine_eq
    (balanced : ledger.IsBalanced)
    (connected : ledger.stream.connected = true) :
    ledger.stream.readLine =
      ⟨ledger.pending.head?.elim .quiet .line, .none, false,
        { ledger.stream with readable := ledger.pending.tail.map .line }⟩ := by
  have readable := balanced.readable
  cases pending : ledger.pending with
  | nil =>
    rw [pending] at readable
    rw [readLine_of_readable_eq_nil connected readable, List.tail_nil, ← readable]
    rfl
  | cons line rest =>
    rw [pending] at readable
    exact readLine_of_readable_eq_cons connected readable

theorem step_read
    (balanced : ledger.IsBalanced)
    (connected : ledger.stream.connected = true) :
    ledger.step .read =
      { ledger with
        stream := { ledger.stream with readable := ledger.pending.tail.map .line }
        removed := ledger.removed ++ ledger.pending.head?.toList.map .read } := by
  cases pending : ledger.pending <;>
    simp [step, balanced.readLine_eq connected, pending, ReadOutcome.lines]

theorem step_discard (balanced : ledger.IsBalanced) :
    ledger.step .discard =
      { ledger with
        stream := { ledger.stream with
          discarded := ledger.stream.discarded ++ ledger.stream.readable
          readable := [] }
        removed := ledger.removed ++ ledger.pending.map .dropped } := by
  simp [step, discardInput_of_drops balanced.drops]

/-- Without the device nothing is written, and nothing is read. -/
theorem step_of_gone
    (gone : ledger.stream.connected = false)
    {action : Action}
    (needs : action.needsDevice = true) :
    ledger.step action = ledger := by
  cases action with
  | write octets => simp [step, write_of_gone gone]
  | read => simp [step, readLine_of_gone gone, ReadOutcome.lines]
  | _ => exact absurd needs Bool.false_ne_true

/-! ### What a step keeps -/

namespace IsBalanced

/-- Scripting makes nothing readable. -/
theorem script
    (balanced : ledger.IsBalanced)
    (batches : List (List (List Char))) :
    IsBalanced { ledger with
      stream := { ledger.stream with
        script := ledger.stream.script ++ batches.map (List.map .line) }
      batches := ledger.batches ++ batches } :=
  { balanced with
    within := by
      rw [List.length_append]
      exact Nat.le_add_right_of_le balanced.within
    waiting := by
      rw [List.drop_append_of_le_length balanced.within, List.map_append, ← balanced.waiting] }

/-- Lines that arrive can be read behind the others. -/
theorem arrive
    (balanced : ledger.IsBalanced)
    (lines : List (List Char)) :
    IsBalanced { ledger with
      stream := { ledger.stream with
        readable := ledger.stream.readable ++ lines.map .line }
      arrived := ledger.arrived ++ lines } :=
  { balanced with
    lines := by simp [pending, balanced.lines]
    readable := by
      rw [pending, linesOf_append, linesOf_map_line, List.map_append]
      exact congrArg (· ++ _) balanced.readable }

/-- The number of a batch is taken when the batch leaves the script. -/
theorem release (balanced : ledger.IsBalanced) :
    IsBalanced { ledger with
      stream := { ledger.stream with script := ledger.stream.script.tail }
      released := ledger.released ++ ledger.oldest?.toList } := by
  have next := balanced.oldest?_eq
  split at next
  case isTrue fewer =>
    rw [next]
    exact
      { balanced with
        ordered := by
          rw [Option.toList_some, List.length_append, List.length_singleton, List.range_succ,
            ← balanced.ordered]
        within := by simpa using Nat.succ_le_of_lt fewer
        waiting := by simp [balanced.waiting] }
  case isFalse all =>
    -- Every batch has been released, so that the script is empty.
    have ended : ledger.stream.script = [] := by
      rw [balanced.waiting, List.drop_eq_nil_of_le (Nat.le_of_not_lt all), List.map_nil]
    rw [next, ended, Option.toList_none, List.append_nil, List.tail_nil, ← ended]
    exact balanced

theorem write
    (balanced : ledger.IsBalanced)
    (connected : ledger.stream.connected = true)
    (octets : List UInt8) :
    (ledger.step (.write octets)).IsBalanced := by
  have released := balanced.release.arrive (ledger.oldest?.elim [] ledger.batch)
  rw [step_write connected, balanced.head?_script]
  exact { released with }

theorem read
    (balanced : ledger.IsBalanced)
    (connected : ledger.stream.connected = true) :
    (ledger.step .read).IsBalanced := by
  rw [step_read balanced connected]
  exact
    { balanced with
      lines := by
        rw [balanced.lines]
        cases pending : ledger.pending <;> simp [Ledger.pending, Removal.line]
      readable := congrArg _ (linesOf_map_line _).symm
      discarded := by
        rw [balanced.discarded]
        cases pending : ledger.pending <;> simp [dropped, Removal.dropped?] }

theorem discard (balanced : ledger.IsBalanced) :
    (ledger.step .discard).IsBalanced := by
  rw [step_discard balanced]
  exact
    { balanced with
      lines := by
        rw [List.map_append, Removal.map_line_map_dropped]
        exact balanced.lines.trans (List.append_nil _).symm
      readable := rfl
      discarded := by
        rw [dropped, List.filterMap_append, Removal.filterMap_dropped?_map_dropped,
          List.map_append, ← balanced.readable]
        exact congrArg (· ++ _) balanced.discarded }

end IsBalanced

theorem isBalanced_step
    (balanced : ledger.IsBalanced)
    (action : Action) :
    (ledger.step action).IsBalanced := by
  cases action with
  | reply lines => simpa [step, Scripted.reply] using balanced.script [lines]
  | replyLine line => simpa [step, Scripted.reply] using balanced.script [[line]]
  | replyRepeated line count =>
    simpa [step, replyRepeated] using balanced.script (List.replicate count [line])
  | push line => simpa [step, Scripted.push] using balanced.arrive [line]
  | write octets =>
    cases connected : ledger.stream.connected with
    | true => exact balanced.write connected octets
    | false => rwa [step_of_gone connected rfl]
  | read =>
    cases connected : ledger.stream.connected with
    | true => exact balanced.read connected
    | false => rwa [step_of_gone connected rfl]
  | discard => exact balanced.discard
  | disconnect =>
    have gone : IsBalanced { ledger with stream := ledger.stream.disconnect } := { balanced with }
    simpa [step] using gone

theorem isBalanced_run (actions : List Action) : (run actions).IsBalanced := by
  induction actions using List.reverseRecOn with
  | nil => exact isBalanced_start
  | append_singleton actions action induction =>
    rw [run_concat]
    exact isBalanced_step induction action

/-! ### Failures -/

/-- A line never disconnects the device, as other arrivals may. -/
theorem connected_step
    (balanced : ledger.IsBalanced)
    (action : Action) :
    (ledger.step action).stream.connected =
      (ledger.stream.connected && action != .disconnect) := by
  cases action with
  | write octets =>
    cases connected : ledger.stream.connected with
    | true => simp [step_write connected, connected]
    | false => rw [step_of_gone connected rfl, connected, Bool.false_and]
  | read =>
    cases connected : ledger.stream.connected with
    | true => simp [step_read balanced connected, connected]
    | false => rw [step_of_gone connected rfl, connected, Bool.false_and]
  | discard => simp [step_discard balanced]
  | disconnect => simp [step, Scripted.disconnect]
  | reply lines => simp [step, Scripted.reply]
  | replyLine line => simp [step, Scripted.reply]
  | replyRepeated line count => simp [step, replyRepeated]
  | push line => simp [step, Scripted.push]

/-- The device is there until it is disconnected. -/
theorem connected_run (actions : List Action) :
    (run actions).stream.connected = decide (.disconnect ∉ actions) := by
  induction actions using List.reverseRecOn with
  | nil => rfl
  | append_singleton actions action induction =>
    rw [run_concat, connected_step (isBalanced_run actions), induction]
    by_cases last : action = .disconnect
    · simp [last]
    · simp [last, Ne.symm last]

/-- Only writes and reads fail, and only without the device. -/
theorem IsBalanced.failure?_eq
    (balanced : ledger.IsBalanced)
    (action : Action) :
    action.failure? ledger.stream =
      if ledger.stream.connected = false ∧ action.needsDevice = true then
        some unplugged
      else none := by
  cases action with
  | write octets =>
    cases connected : ledger.stream.connected with
    | true => simp [write_of_connected connected]
    | false => simp [write_of_gone connected, Action.needsDevice]
  | read =>
    cases connected : ledger.stream.connected with
    | true => cases pending : ledger.pending <;> simp [balanced.readLine_eq connected, pending]
    | false => simp [readLine_of_gone connected, Action.needsDevice]
  | discard => simp [discardInput_of_drops balanced.drops, Action.needsDevice]
  | _ => simp [Action.needsDevice]

theorem IsBalanced.failure?_eq_none_iff
    (balanced : ledger.IsBalanced)
    (action : Action) :
    action.failure? ledger.stream = none ↔
      (action.needsDevice = true → ledger.stream.connected = true) := by
  rw [balanced.failure?_eq]
  cases ledger.stream.connected <;> cases action.needsDevice <;> simp

/-! ### Conservation -/

/-- What holds of a ledger after some actions, and of the action that comes next. -/
structure Conserves (actions : List Action) (ledger : Ledger) : Prop
    extends ledger.IsBalanced where
  scripted : ledger.batches = actions.flatMap Action.batches
  /-- A write that succeeds releases the oldest batch that was not released, if there is one. -/
  writes : ∀ octets, (Action.write octets).failure? ledger.stream = none →
    (ledger.step (.write octets)).pending = ledger.pending ++ ledger.oldest?.elim [] ledger.batch
  /-- A read that succeeds answers with the first line that can be read. -/
  reads : Action.read.failure? ledger.stream = none →
    ledger.stream.readLine.outcome = ledger.pending.head?.elim .quiet .line
  /-- Writes and reads fail when the device was disconnected, and nothing else fails. -/
  fails : ∀ action : Action, action.failure? ledger.stream =
    if .disconnect ∈ actions ∧ action.needsDevice = true then some unplugged else none
  /-- What fails changes nothing. -/
  unchanged : ∀ action : Action, action.failure? ledger.stream ≠ none →
    ledger.step action = ledger

/-- Each line that was made readable has been taken out or can still be read, in its turn. -/
theorem conserves_lines (actions : List Action) : Conserves actions (run actions) := by
  have balanced := isBalanced_run actions
  refine { balanced with
    scripted := batches_run actions
    writes := fun octets succeeds => ?writes
    reads := fun succeeds => ?reads
    fails := fun action => ?fails
    unchanged := fun action failed => ?unchanged }
  case writes =>
    have connected := (balanced.failure?_eq_none_iff _).mp succeeds rfl
    rw [step_write connected, balanced.head?_script]
    simp [pending]
  case reads =>
    have connected := (balanced.failure?_eq_none_iff _).mp succeeds rfl
    rw [balanced.readLine_eq connected]
  case fails =>
    rw [balanced.failure?_eq, connected_run]
    simp
  case unchanged =>
    rw [Ne, balanced.failure?_eq_none_iff, Classical.not_imp, Bool.not_eq_true] at failed
    exact step_of_gone failed.2 failed.1

example :
    (run [.reply [['a'], ['b']], .replyLine ['c'], .write [], .read, .discard, .write [],
      .read]).removed = [.read ['a'], .dropped ['b'], .read ['c']] := by
  decide

end Ledger

end RoverLink.Scripted
