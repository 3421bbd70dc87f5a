import Mathlib.Data.List.DropRight
import RoverLink.Proofs.Cnc.Controller
import RoverLink.Stream.Scripted

/-!
# What the motion state of a stepper board means

A board tells about its motion in two ways: it acknowledges a command that
starts or stops one, and it answers whether it is busy.  `events` lists what it
tells in a call, with the questions that a wait asks.  The motion state depends
only on what the board told since it last stood still (`tells_motion`).  A wait
that fails may therefore leave another motion state than it found, because its
questions before the last one were answered (`exists_busy_after_failure`).
-/

namespace RoverLink

/-- What a stepper board tells about its motion. -/
inductive MotionEvent where
  /-- It acknowledges a stop, or answers that it is not busy. -/
  | idle
  /-- It acknowledges a homing. -/
  | homing
  /-- It acknowledges another motion. -/
  | moving
  /-- It answers that it is busy. -/
  | busy
  deriving DecidableEq, Repr

/-- The motion state after what the board tells. -/
def CncState.afterEvent (state : CncState) : MotionEvent → CncState
  | .idle => .idle
  | .homing => .homing
  | .moving => .moving
  | .busy => state.afterPoll true

namespace MotionEvent

/-- Whether the board acknowledges that it moves. -/
def isMotion : MotionEvent → Bool
  | .homing => true
  | .moving => true
  | _ => false

/-! ### Since the board last stood still -/

/-- What the board told after it last told that it is standing. -/
def sinceIdle (events : List MotionEvent) : List MotionEvent :=
  events.rtakeWhile (· ≠ .idle)

/-- The last motion that the board acknowledged. -/
def lastMotion? (events : List MotionEvent) : Option MotionEvent :=
  (events.filter isMotion).getLast?

theorem sinceIdle_concat_idle (events : List MotionEvent) :
    sinceIdle (events ++ [.idle]) = [] :=
  List.rtakeWhile_concat_neg _ events .idle (by simp)

theorem sinceIdle_concat
    (events : List MotionEvent)
    {event : MotionEvent}
    (other : event ≠ .idle) :
    sinceIdle (events ++ [event]) = sinceIdle events ++ [event] :=
  List.rtakeWhile_concat_pos _ events event (by simpa using other)

theorem lastMotion?_concat
    (events : List MotionEvent)
    (event : MotionEvent) :
    lastMotion? (events ++ [event]) =
      if event.isMotion then some event else lastMotion? events := by
  rw [lastMotion?, List.filter_append]
  cases motion : event.isMotion with
  | false => simp [motion, lastMotion?]
  | true => simp [motion]

/-- The last motion is a homing or another one, if there is any. -/
theorem lastMotion?_cases (events : List MotionEvent) :
    lastMotion? events = none ∨ lastMotion? events = some .homing ∨
      lastMotion? events = some .moving := by
  cases last : lastMotion? events with
  | none => exact .inl rfl
  | some motion =>
    have moves : motion.isMotion = true := (List.mem_filter.mp (List.mem_of_getLast? last)).2
    cases motion <;> simp [isMotion] at moves ⊢

theorem lastMotion?_eq_none_iff {events : List MotionEvent} :
    lastMotion? events = none ↔ ∀ event ∈ events, event.isMotion = false := by
  simp [lastMotion?]

/-- The motion state of a board that told these things since it last stood still. -/
def stateSinceIdle (events : List MotionEvent) : CncState :=
  match lastMotion? events with
  | some event => CncState.idle.afterEvent event
  | none => if .busy ∈ events then .busy else .idle

/-- One more thing that the board tells, unless it is that it stands still. -/
theorem stateSinceIdle_concat
    (events : List MotionEvent)
    {event : MotionEvent}
    (other : event ≠ .idle) :
    stateSinceIdle (events ++ [event]) = (stateSinceIdle events).afterEvent event := by
  rw [stateSinceIdle, lastMotion?_concat, stateSinceIdle]
  cases event with
  | idle => exact (other rfl).elim
  | homing => rfl
  | moving => rfl
  | busy =>
    -- A motion that was acknowledged before outlasts the answer.
    rcases lastMotion?_cases events with last | last | last
    · by_cases before : MotionEvent.busy ∈ events <;>
        simp [last, isMotion, before, CncState.afterEvent, CncState.afterPoll]
    · simp [last, isMotion, CncState.afterEvent, CncState.afterPoll]
    · simp [last, isMotion, CncState.afterEvent, CncState.afterPoll]

/-- The motion state follows from what the board told since it last stood still. -/
theorem foldl_afterEvent (events : List MotionEvent) :
    events.foldl CncState.afterEvent .idle = stateSinceIdle (sinceIdle events) := by
  induction events using List.reverseRecOn with
  | nil => rfl
  | append_singleton events event induction =>
    rw [List.foldl_append, induction]
    by_cases idle : event = .idle
    · subst idle
      rw [sinceIdle_concat_idle]
      rfl
    · rw [sinceIdle_concat events idle, stateSinceIdle_concat _ idle]
      rfl

/-- A board that only answers busy leaves every motion state but that of standing. -/
theorem foldl_afterEvent_of_busy
    {events : List MotionEvent}
    (busy : ∀ event ∈ events, event = .busy)
    (state : CncState) :
    events.foldl CncState.afterEvent state = state ∨
      state = .idle ∧ .busy ∈ events ∧ events.foldl CncState.afterEvent state = .busy := by
  induction events generalizing state with
  | nil => exact .inl rfl
  | cons event events induction =>
    rcases List.forall_mem_cons.mp busy with ⟨rfl, rest⟩
    rw [List.foldl_cons]
    have still : CncState.busy ≠ .idle := by decide
    cases state with
    | idle =>
      rcases induction rest .busy with same | ⟨idle, _⟩
      · exact .inr ⟨rfl, List.mem_cons_self, same⟩
      · exact (still idle).elim
    | homing => exact (induction rest .homing).imp_right fun later => by simp at later
    | moving => exact (induction rest .moving).imp_right fun later => by simp at later
    | busy => exact (induction rest .busy).imp_right fun later => by simp at later

section

variable {events : List MotionEvent}

theorem stateSinceIdle_eq_idle_iff :
    stateSinceIdle events = .idle ↔
      (∀ event ∈ events, event.isMotion = false) ∧ .busy ∉ events := by
  rw [← lastMotion?_eq_none_iff, stateSinceIdle]
  rcases lastMotion?_cases events with last | last | last <;> simp [last, CncState.afterEvent]

theorem stateSinceIdle_eq_busy_iff :
    stateSinceIdle events = .busy ↔
      .busy ∈ events ∧ ∀ event ∈ events, event.isMotion = false := by
  rw [← lastMotion?_eq_none_iff, stateSinceIdle]
  rcases lastMotion?_cases events with last | last | last <;> simp [last, CncState.afterEvent]

/-- A motion state of a motion is that of the last motion. -/
theorem stateSinceIdle_eq_iff
    {motion : MotionEvent}
    (moves : motion.isMotion = true) :
    stateSinceIdle events = CncState.idle.afterEvent motion ↔
      lastMotion? events = some motion := by
  rw [stateSinceIdle]
  rcases lastMotion?_cases events with last | last | last
  · by_cases busy : MotionEvent.busy ∈ events <;> cases motion <;>
      simp [isMotion] at moves <;> simp [last, busy, CncState.afterEvent]
  all_goals cases motion <;> simp [isMotion] at moves <;> simp [last, CncState.afterEvent]

end

end MotionEvent

/-! ### What a board tells in a call -/

/-- What the answer to a question tells, if there is one. -/
def Inquiry.event?
    {Stream : Type}
    [ByteStream Stream]
    (inquiry : Inquiry Stream)
    (limits : Limits) :
    Option MotionEvent :=
  match inquiry.answer limits with
  | .ok value => some (if value = 0 then .idle else .busy)
  | .error _ => none

namespace Inquiry

variable {Stream : Type} [ByteStream Stream]

theorem event?_eq_none_iff {inquiry : Inquiry Stream} {limits : Limits} :
    inquiry.event? limits = none ↔ ∃ error, inquiry.answer limits = .error error := by
  rw [event?]
  cases inquiry.answer limits <;> simp

theorem event?_of_isBusy
    {inquiry : Inquiry Stream}
    {limits : Limits}
    (busy : inquiry.IsBusy limits) :
    inquiry.event? limits = some .busy := by
  rcases busy with ⟨reply, value, succeeded, _, answered, nonzero⟩
  simp [event?, answer, succeeded, answered, nonzero]

/-- A question changes the motion state as its answer tells, and not at all without one. -/
theorem state_step (inquiry : Inquiry Stream) (limits : Limits) :
    (inquiry.step limits).state.state =
      (inquiry.event? limits).toList.foldl CncState.afterEvent inquiry.cnc.state := by
  rw [step_eq, stateAfter, event?]
  cases inquiry.answer limits with
  | error error => rfl
  | ok value =>
    by_cases idle : value = 0
    · simp [idle, CncState.afterPoll, CncState.afterEvent]
    · have nonzero : (value != 0) = true := by simpa using idle
      simp [idle, nonzero, CncState.afterEvent]

/-- What the answers to questions tell. -/
def told (limits : Limits) (polls : List (Inquiry Stream)) : List MotionEvent :=
  polls.filterMap fun inquiry => inquiry.event? limits

theorem told_cons
    (limits : Limits)
    (first : Inquiry Stream)
    (polls : List (Inquiry Stream)) :
    told limits (first :: polls) = (first.event? limits).toList ++ told limits polls := by
  cases event : first.event? limits <;> simp [told, event]

end Inquiry

namespace Waits

variable {Stream : Type} [ByteStream Stream]
variable {options : WaitOptions} {started : Nat} {limits : Limits} {first : Inquiry Stream}
variable {polls : List (Inquiry Stream)} {step : Step (Cnc Stream) Unit}

theorem state_eq_foldl (waits : Waits options started limits first polls step) :
    step.state.state =
      (Inquiry.told limits polls).foldl CncState.afterEvent first.cnc.state := by
  induction waits with
  | cancelled _ _ => rfl
  | @ended first _ _ =>
    rw [first.state_step, Inquiry.told_cons, List.foldl_append]
    rfl
  | @resumed first later polls step _ _ _ induction =>
    rw [induction, first.state_step, Inquiry.told_cons, List.foldl_append]

/-- A wait that fails has heard nothing but that the board is busy. -/
theorem eq_busy_of_failed
    (waits : Waits options started limits first polls step)
    {error : Error}
    (failed : step.result = .error error) :
    ∀ event ∈ Inquiry.told limits polls, event = .busy := by
  induction waits with
  | cancelled _ _ => simp [Inquiry.told]
  | @ended first result ends =>
    cases ends with
    | failed unanswered =>
      have silent := Inquiry.event?_eq_none_iff.mpr ⟨_, unanswered⟩
      simp [Inquiry.told, silent]
    | idle _ => simp at failed
    | stopped busy _ => simp [Inquiry.told, Inquiry.event?_of_isBusy busy]
  | resumed busy _ _ induction =>
    rw [Inquiry.told_cons, Inquiry.event?_of_isBusy busy]
    exact List.forall_mem_cons.mpr ⟨rfl, induction failed⟩

end Waits

namespace CncTask

/-- The command of a task that starts or stops a motion, and what its acknowledgement tells. -/
def motion? : CncTask → Option (Command × MotionEvent)
  | .moveSteps milliseconds dx dy dz =>
    if milliseconds ≤ 0 then none
    else (Command.make 'M' [milliseconds, dx, dy, dz]).toOption.map (·, .moving)
  | .moveAt vx vy vz =>
    (Command.make 'V' [vx, vy, vz]).toOption.map
      (·, if vx = 0 ∧ vy = 0 ∧ vz = 0 then .idle else .moving)
  | .homing => some (.query 'H' (Eq.refl true), .homing)
  | _ => none

/-- Whether a task has nothing to do with motions. -/
inductive IsSilent : CncTask → Prop where
  | configure (config : CncConfig) : IsSilent (.configure config)
  | configureHoming (config : CncConfig) : IsSilent (.configureHoming config)
  | enable : IsSilent .enable
  | disable : IsSilent .disable
  | setRelay (on : Bool) : IsSilent (.setRelay on)

end CncTask

namespace Cnc

section

variable {Stream : Type} [ByteStream Stream]

/-- Whether the board acknowledges a command that it is given now. -/
def acknowledges (cnc : Cnc Stream) (command : Command) (clock : Clock) : Bool :=
  cnc.device.isConfigured && (cnc.device.transmission .order command .none clock).isAcknowledged

/-- What the board tells about its motion when it is given a task now. -/
def events (cnc : Cnc Stream) (task : CncTask) (clock : Clock) : List MotionEvent :=
  match task with
  | .isBusy => (Inquiry.event? ⟨cnc, clock⟩ .none).toList
  | .wait options => Inquiry.told (options.limits clock) (cnc.asked options clock)
  | other =>
    match other.motion? with
    | some (command, event) => if cnc.acknowledges command clock then [event] else []
    | none => []

/-! ### What a task does to the motion state -/

theorem result_execute
    (cnc : Cnc Stream)
    (command : Command)
    (clock : Clock) :
    (cnc.device.execute command clock).result.isOk = cnc.acknowledges command clock := by
  rw [acknowledges, Device.isAcknowledged_transmission, Device.execute, Device.executeWithin]
  cases cnc.device.isConfigured with
  | false => rfl
  | true => rfl

/-- A motion starts exactly if its command is acknowledged, and this changes the motion state. -/
theorem start_eq
    (cnc : Cnc Stream)
    (command : Command)
    (next : CncState)
    (clock : Clock) :
    (cnc.start command next clock).result.isOk = cnc.acknowledges command clock ∧
      (cnc.start command next clock).state.state =
        if cnc.acknowledges command clock then next else cnc.state := by
  rw [← result_execute, start]
  cases (cnc.device.execute command clock).result with
  | ok reply => exact ⟨rfl, rfl⟩
  | error error => exact ⟨rfl, rfl⟩

/-- A task of a motion sends its command. -/
theorem run_of_motion
    (cnc : Cnc Stream)
    {task : CncTask}
    {command : Command}
    {event : MotionEvent}
    (motion : task.motion? = some (command, event))
    (clock : Clock) :
    cnc.run task clock = cnc.start command (cnc.state.afterEvent event) clock := by
  cases task with
  | moveSteps milliseconds dx dy dz =>
    simp only [CncTask.motion?] at motion
    split at motion
    · simp at motion
    next positive =>
      cases made : Command.make 'M' [milliseconds, dx, dy, dz] with
      | error error => simp [made, Except.toOption] at motion
      | ok command =>
        simp only [made, Except.toOption, Option.map_some, Option.some.injEq,
          Prod.mk.injEq] at motion
        rcases motion with ⟨rfl, rfl⟩
        simp [run, moveSteps, positive, made, CncState.afterEvent]
  | moveAt vx vy vz =>
    simp only [CncTask.motion?] at motion
    cases made : Command.make 'V' [vx, vy, vz] with
    | error error => simp [made, Except.toOption] at motion
    | ok command =>
      simp only [made, Except.toOption, Option.map_some, Option.some.injEq,
        Prod.mk.injEq] at motion
      rcases motion with ⟨rfl, rfl⟩
      rw [run, moveAt, made]
      by_cases stops : vx = 0 ∧ vy = 0 ∧ vz = 0 <;> simp [stops, CncState.afterEvent]
  | homing =>
    cases motion
    rfl
  | configure config => cases motion
  | configureHoming config => cases motion
  | enable => cases motion
  | disable => cases motion
  | setRelay on => cases motion
  | isBusy => cases motion
  | wait options => cases motion

theorem events_of_motion
    (cnc : Cnc Stream)
    {task : CncTask}
    {command : Command}
    {event : MotionEvent}
    (motion : task.motion? = some (command, event))
    (clock : Clock) :
    cnc.events task clock = if cnc.acknowledges command clock then [event] else [] := by
  cases task with
  | isBusy => cases motion
  | wait options => cases motion
  | _ => simp only [events, motion]

/-- A command of a motion that cannot be made is refused. -/
theorem state_run_of_no_motion
    (cnc : Cnc Stream)
    {task : CncTask}
    (none : task.motion? = none)
    (asksNothing : task ≠ .isBusy ∧ ∀ options, task ≠ .wait options)
    (clock : Clock) :
    (cnc.run task clock).state.state = cnc.state := by
  cases task with
  | moveSteps milliseconds dx dy dz =>
    simp only [CncTask.motion?] at none
    simp only [run, moveSteps]
    split
    · rfl
    next positive =>
      rw [if_neg positive] at none
      cases made : Command.make 'M' [milliseconds, dx, dy, dz] with
      | error error => rfl
      | ok command => simp [made, Except.toOption] at none
  | moveAt vx vy vz =>
    simp only [CncTask.motion?] at none
    simp only [run, moveAt]
    cases made : Command.make 'V' [vx, vy, vz] with
    | error error => rfl
    | ok command => simp [made, Except.toOption] at none
  | homing => cases none
  | isBusy => exact (asksNothing.1 rfl).elim
  | wait options => exact (asksNothing.2 options rfl).elim
  | _ => rfl

theorem state_wait
    (cnc : Cnc Stream)
    (options : WaitOptions)
    (clock : Clock) :
    (cnc.wait options clock).state.state =
      (cnc.events (.wait options) clock).foldl CncState.afterEvent cnc.state := by
  by_cases named : options.IsNamed clock
  · exact (cnc.waits_wait named).state_eq_foldl
  · rcases cnc.wait_of_not_isNamed named with ⟨asks, waits⟩
    rw [events, asks, waits]
    rfl

/-- A task changes the motion state as the board tells, and in no other way. -/
theorem state_run
    (cnc : Cnc Stream)
    (task : CncTask)
    (clock : Clock) :
    (cnc.run task clock).state.state =
      (cnc.events task clock).foldl CncState.afterEvent cnc.state := by
  cases motion : task.motion? with
  | some found =>
    rw [cnc.run_of_motion motion, cnc.events_of_motion motion, (cnc.start_eq _ _ clock).2]
    split <;> rfl
  | none =>
    cases task with
    | isBusy => exact Inquiry.state_step ⟨cnc, clock⟩ .none
    | wait options => exact cnc.state_wait options clock
    | _ =>
      rw [cnc.state_run_of_no_motion motion (by simp) clock]
      simp only [events, motion, List.foldl_nil]

/-- A motion starts or stops exactly if its command is acknowledged. -/
theorem acknowledges_iff
    (cnc : Cnc Stream)
    {task : CncTask}
    {command : Command}
    {event : MotionEvent}
    (motion : task.motion? = some (command, event))
    (clock : Clock) :
    cnc.acknowledges command clock = true ↔ (cnc.run task clock).result = .ok () := by
  rw [cnc.run_of_motion motion, ← (cnc.start_eq command (cnc.state.afterEvent event) clock).1]
  cases (cnc.start command (cnc.state.afterEvent event) clock).result <;>
    simp [Except.isOk, Except.toBool]

/-- A task that fails has heard nothing but, while it waited, that the board is busy. -/
theorem events_of_failed
    (cnc : Cnc Stream)
    {task : CncTask}
    {clock : Clock}
    {error : Error}
    (failed : (cnc.run task clock).result = .error error) :
    cnc.events task clock = [] ∨
      (∃ options, task = .wait options) ∧
        ∀ event ∈ cnc.events task clock, event = .busy := by
  cases motion : task.motion? with
  | some found =>
    have unacknowledged : cnc.acknowledges found.1 clock = false := by
      rw [← Bool.not_eq_true, cnc.acknowledges_iff motion, failed]
      simp
    rw [cnc.events_of_motion motion, unacknowledged]
    exact .inl rfl
  | none =>
    cases task with
    | isBusy =>
      refine .inl ?_
      have unanswered : (Inquiry.step ⟨cnc, clock⟩ .none).result = .error error :=
        Step.result_map_eq_error_iff.mp failed
      have nothing := Inquiry.event?_eq_none_iff.mpr
        ⟨error, Inquiry.answer_eq_error_iff.mpr unanswered⟩
      rw [events, nothing]
      rfl
    | wait options =>
      refine .inr ⟨⟨options, rfl⟩, ?_⟩
      by_cases named : options.IsNamed clock
      · exact (cnc.waits_wait named).eq_busy_of_failed failed
      · simp [events, (cnc.wait_of_not_isNamed named).1, Inquiry.told]
    | _ => exact .inl (by simp only [events, motion])

theorem events_of_isSilent
    (cnc : Cnc Stream)
    {task : CncTask}
    (silent : task.IsSilent)
    (clock : Clock) :
    cnc.events task clock = [] := by
  cases silent <;> rfl

end

/-! ### What a board tells in a history -/

section

variable {Stream : Type} [ByteStream Stream]

/-- The board when a call begins. -/
def ready (cnc : Cnc (Logged Stream)) (call : BoardCall Stream CncTask) : Cnc (Logged Stream) :=
  (controller Stream).ready cnc call

/-- The step of a call. -/
def perform
    (cnc : Cnc (Logged Stream))
    (call : BoardCall Stream CncTask) :
    Step (Cnc (Logged Stream)) Unit :=
  (controller Stream).perform cnc call

/-- The board after calls. -/
def after
    (cnc : Cnc (Logged Stream))
    (calls : List (BoardCall Stream CncTask)) :
    Cnc (Logged Stream) :=
  (controller Stream).after cnc calls

/-- What the board tells in a call. -/
def eventsOf (cnc : Cnc (Logged Stream)) (call : BoardCall Stream CncTask) : List MotionEvent :=
  (cnc.ready call).events call.task call.clock

/-- All that the board tells in calls. -/
def eventsIn (cnc : Cnc (Logged Stream)) : List (BoardCall Stream CncTask) → List MotionEvent
  | [] => []
  | call :: calls => cnc.eventsOf call ++ eventsIn (cnc.perform call).state calls

theorem state_perform (cnc : Cnc (Logged Stream)) (call : BoardCall Stream CncTask) :
    (cnc.perform call).state.state =
      (cnc.eventsOf call).foldl CncState.afterEvent cnc.state :=
  (cnc.ready call).state_run call.task call.clock

/-- The motion state after calls follows from all that the board told in them. -/
theorem state_after (cnc : Cnc (Logged Stream)) (calls : List (BoardCall Stream CncTask)) :
    (cnc.after calls).state = (cnc.eventsIn calls).foldl CncState.afterEvent cnc.state := by
  induction calls generalizing cnc with
  | nil => rfl
  | cons call calls induction =>
    rw [eventsIn, List.foldl_append, ← state_perform]
    exact induction (cnc.perform call).state

/--
What the motion state of a board means after calls, and what a further call may
do to it.
-/
structure TellsMotion
    (cnc : Cnc (Logged Stream))
    (history : List (BoardCall Stream CncTask)) :
    Prop where
  idle : (cnc.after history).state = .idle ↔
    (∀ event ∈ MotionEvent.sinceIdle (cnc.eventsIn history), event.isMotion = false) ∧
      .busy ∉ MotionEvent.sinceIdle (cnc.eventsIn history)
  homing : (cnc.after history).state = .homing ↔
    MotionEvent.lastMotion? (MotionEvent.sinceIdle (cnc.eventsIn history)) = some .homing
  moving : (cnc.after history).state = .moving ↔
    MotionEvent.lastMotion? (MotionEvent.sinceIdle (cnc.eventsIn history)) = some .moving
  busy : (cnc.after history).state = .busy ↔
    .busy ∈ MotionEvent.sinceIdle (cnc.eventsIn history) ∧
      ∀ event ∈ MotionEvent.sinceIdle (cnc.eventsIn history), event.isMotion = false
  /-- Homings, moves and stops succeed exactly if they are acknowledged. -/
  acknowledged : ∀ call command event, call.task.motion? = some (command, event) →
    (((cnc.after history).perform call).result = .ok () ↔
      ((cnc.after history).ready call).acknowledges command call.clock = true)
  /-- Configuring, switching and the relay change nothing. -/
  silent : ∀ call, call.task.IsSilent →
    ((cnc.after history).perform call).state.state = (cnc.after history).state
  /-- A question that fails, or whose reply holds no integer, changes nothing. -/
  unanswered : ∀ (inquiry : Inquiry (Logged Stream)) limits error,
    inquiry.answer limits = .error error →
      (inquiry.step limits).state.state = inquiry.cnc.state
  /--
  A call that fails changes nothing, unless it is a wait which was told that a
  board that counts as standing is busy.
  -/
  failed : ∀ call error, ((cnc.after history).perform call).result = .error error →
    ((cnc.after history).perform call).state.state = (cnc.after history).state ∨
      (∃ options, call.task = .wait options) ∧ .busy ∈ (cnc.after history).eventsOf call ∧
        (cnc.after history).state = .idle ∧
          ((cnc.after history).perform call).state.state = .busy

/-- The motion state is what the board told since it last told that it stands still. -/
theorem tells_motion
    (session : Session (Logged Stream))
    (history : List (BoardCall Stream CncTask)) :
    TellsMotion (Cnc.new session) history := by
  have state : ((Cnc.new session).after history).state =
      MotionEvent.stateSinceIdle (MotionEvent.sinceIdle ((Cnc.new session).eventsIn history)) :=
    (state_after _ history).trans (MotionEvent.foldl_afterEvent _)
  constructor
  case idle => rw [state, MotionEvent.stateSinceIdle_eq_idle_iff]
  case homing =>
    rw [state]
    exact MotionEvent.stateSinceIdle_eq_iff (show MotionEvent.homing.isMotion = true from rfl)
  case moving =>
    rw [state]
    exact MotionEvent.stateSinceIdle_eq_iff (show MotionEvent.moving.isMotion = true from rfl)
  case busy => rw [state, MotionEvent.stateSinceIdle_eq_busy_iff]
  case acknowledged =>
    intro call command event motion
    exact (acknowledges_iff _ motion call.clock).symm
  case silent =>
    intro call silent
    rw [state_perform, eventsOf, events_of_isSilent _ silent]
    rfl
  case unanswered =>
    intro inquiry limits error unanswered
    rw [inquiry.state_step, Inquiry.event?_eq_none_iff.mpr ⟨error, unanswered⟩]
    rfl
  case failed =>
    intro call error failed
    rw [state_perform]
    rcases events_of_failed (((Cnc.new session).after history).ready call) failed with
        nothing | ⟨waits, busy⟩
    · rw [eventsOf, nothing]
      exact .inl rfl
    · rcases MotionEvent.foldl_afterEvent_of_busy busy ((Cnc.new session).after history).state
        with same | ⟨idle, told, changed⟩
      · exact .inl same
      · exact .inr ⟨waits, told, idle, changed⟩

end

/-! ### A wait that fails -/

/-- A board that acknowledges its configuration and then answers once that it is busy. -/
def onceBusy : Cnc (Logged Scripted) :=
  .new
    (.new
      (Logged.start ((Scripted.empty.reply [.line ['#', '[', '0', ']']]).reply
        [.line ['#', '[', '0', ',', '1', ']']]))
      ⟨.withoutBackoff 1, .ofMilliseconds 10000, .placeholder⟩)

/--
This board is configured, and a wait for a tenth of a second fails, because its
only question is answered busy.  The board stood still before, and counts as
busy behind.
-/
theorem exists_busy_after_failure :
    ∃ (history : List (BoardCall Scripted CncTask)) (call : BoardCall Scripted CncTask),
      (∃ options, call.task = .wait options) ∧
        ((onceBusy.after history).perform call).result.isOk = false ∧
        (onceBusy.after history).state = .idle ∧
        (onceBusy.after (history ++ [call])).state = .busy := by
  let configure : BoardCall Scripted CncTask := ⟨id, .configure .standard, .start⟩
  let wait : BoardCall Scripted CncTask :=
    ⟨id, .wait ⟨.ofMilliseconds 1000, some (.ofMilliseconds 100), false⟩, .start⟩
  refine ⟨[configure], wait, ⟨_, rfl⟩, ?_, ?_, ?_⟩
  all_goals decide +kernel

end Cnc

end RoverLink
