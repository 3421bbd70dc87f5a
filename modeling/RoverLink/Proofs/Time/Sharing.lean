import RoverLink.Proofs.Time.Precedence
import RoverLink.Time.Cancellation

/-!
# Tokens that share a flag

Whatever is done with tokens, a copy of a token is seen through the same clock
as its original (`clock_copy_of_run`), so the results about clocks hold for all
holders of a token at once.  A token that is cancelled stays cancelled
(`precedes_of_run`), its copies are cancelled with it and no other token is
(`clock_cancelFrom_of_share`, `clock_cancelFrom_of_not_share`), and a sleep lasts
to its end unless the token is cancelled by then (`sleep_cases`).
-/

namespace RoverLink

namespace Clock

theorem cancelFrom_now (clock : Clock) : clock.cancelFrom clock.now = clock.cancel := by
  rw [cancelFrom, cancel]
  cases set : clock.cancelledFrom with
  | none => simp [isCancelled, set]
  | some instant =>
    by_cases reached : instant ≤ clock.now
    · have earlier : min clock.now instant = instant := Nat.min_eq_right reached
      simp only [isCancelled, set, Option.any_some, reached, decide_true, if_true, Option.map_some,
        Option.getD_some, earlier]
      rw [← set]
    · simp [isCancelled, set, reached, Nat.le_of_not_le reached]

/-- Cancelling from an instant on takes no cancellation back. -/
theorem precedes_cancelFrom (instant : Nat) (clock : Clock) :
    clock.Precedes (clock.cancelFrom instant) := by
  refine ⟨Nat.le_refl _, fun cancelled => ?_⟩
  rcases isCancelled_iff.mp cancelled with ⟨earlier, set, reached⟩
  have from' : (clock.cancelFrom instant).cancelledFrom = some (min instant earlier) := by
    simp [cancelFrom, set]
  exact isCancelled_iff.mpr ⟨_, from', Nat.le_trans (Nat.min_le_right ..) reached⟩

/-- A heeded sleep ends at its end or when the token is cancelled, whichever comes first. -/
theorem sleep_cases
    {nanoseconds : Nat}
    {clock later : Clock}
    (slept : clock.sleep true nanoseconds = some later) :
    later.isCancelled = false ∧ later.now = clock.now + nanoseconds ∨
      later.isCancelled = true ∧ ∃ instant, clock.cancelledFrom = some instant ∧
        instant ≤ clock.now + nanoseconds ∧ later.now = max clock.now instant := by
  have ahead : clock.now ≤ clock.now + nanoseconds := Nat.le_add_right ..
  rw [sleep, if_pos rfl] at slept
  split at slept
  next cancelled =>
    cases slept
    rcases isCancelled_iff.mp cancelled with ⟨instant, set, reached⟩
    exact .inr ⟨cancelled, instant, set, Nat.le_trans reached ahead, (Nat.max_eq_left reached).symm⟩
  next =>
    split at slept
    next =>
      cases slept
      cases set : clock.cancelledFrom with
      | none => exact .inl ⟨by simp [isCancelled, advanceTo, set], Nat.max_eq_right ahead⟩
      | some instant =>
        by_cases early : instant ≤ clock.now + nanoseconds
        · simp only [Option.map_some, Option.getD_some, Nat.min_eq_right early]
          have cancelled : (clock.advanceTo instant).isCancelled = true :=
            isCancelled_iff.mpr ⟨instant, set, Nat.le_max_right ..⟩
          exact .inr ⟨cancelled, instant, rfl, early, rfl⟩
        · simp only [Option.map_some, Option.getD_some, Nat.min_eq_left (Nat.le_of_not_le early)]
          refine .inl ⟨Bool.eq_false_iff.mpr fun cancelled => ?_, Nat.max_eq_right ahead⟩
          rcases isCancelled_iff.mp cancelled with ⟨other, same, reached⟩
          cases set.symm.trans same
          exact early (Nat.le_trans reached (Nat.max_le.mpr ⟨ahead, Nat.le_refl _⟩))
    next => cases slept

end Clock

namespace Tokens

/-! ### What one action does -/

/-- Whether two tokens look at one flag. -/
def Share (tokens : Tokens) (first second : Nat) : Prop :=
  ∃ flag, tokens.holders[first]? = some flag ∧ tokens.holders[second]? = some flag

theorem Share.clock_eq
    {tokens : Tokens}
    {first second : Nat}
    (share : tokens.Share first second) :
    tokens.clock first = tokens.clock second := by
  rcases share with ⟨flag, one, other⟩
  simp [clock, one, other]

/-- The tokens that share a flag are cancelled together. -/
theorem clock_cancelFrom_of_share
    {tokens : Tokens}
    {token other : Nat}
    (share : tokens.Share token other)
    (instant : Nat) :
    (tokens.cancelFrom instant token).clock other = (tokens.clock other).cancelFrom instant := by
  rw [← share.clock_eq]
  rcases share with ⟨flag, one, another⟩
  have isFlag := tokens.isFlag flag (List.mem_of_getElem? one)
  simp [cancelFrom, clock, one, another, isFlag, Clock.cancelFrom]

/-- No other token is cancelled. -/
theorem clock_cancelFrom_of_not_share
    {tokens : Tokens}
    {token other : Nat}
    (unshared : ¬ tokens.Share token other)
    (instant : Nat) :
    (tokens.cancelFrom instant token).clock other = tokens.clock other := by
  rw [cancelFrom]
  cases one : tokens.holders[token]? with
  | none => rfl
  | some flag =>
    cases another : tokens.holders[other]? with
    | none => simp [clock, another]
    | some held =>
      have ne : flag ≠ held := by
        rintro rfl
        exact unshared ⟨flag, one, another⟩
      simp [clock, another, ne]

theorem share_copy
    {tokens : Tokens}
    {token : Nat}
    (handedOut : token < tokens.holders.length) :
    (tokens.copy token).Share token tokens.holders.length := by
  refine ⟨tokens.holders[token], ?_, ?_⟩
  · simp [copy, handOut, handedOut, List.getElem?_append_left]
  · simp [copy, handOut, handedOut]

/-- A sleep on a token lasts to its end unless the token is cancelled by then. -/
theorem sleep_cases
    {tokens later : Tokens}
    {token nanoseconds : Nat}
    {slept : Bool}
    (sleeps : tokens.sleep token nanoseconds = some (slept, later)) :
    slept = true ∧ later.now = tokens.now + nanoseconds ∨
      slept = false ∧ ∃ instant, (tokens.clock token).cancelledFrom = some instant ∧
        instant ≤ tokens.now + nanoseconds ∧ later.now = max tokens.now instant := by
  rcases Option.map_eq_some_iff.mp sleeps with ⟨clock, asleep, ends⟩
  cases ends
  rcases Clock.sleep_cases asleep with ⟨uncancelled, now⟩ | ⟨cancelled, found⟩
  · exact .inl ⟨by simp [uncancelled], now⟩
  · exact .inr ⟨by simp [cancelled], found⟩

/-! ### Runs -/

/-- What can be done with tokens. -/
inductive Action where
  | create
  | copy (token : Nat)
  | cancelFrom (instant token : Nat)
  | sleep (token nanoseconds : Nat)

def act (tokens : Tokens) : Action → Option Tokens
  | .create => some tokens.create
  | .copy token => some (tokens.copy token)
  | .cancelFrom instant token => some (tokens.cancelFrom instant token)
  | .sleep token nanoseconds => (tokens.sleep token nanoseconds).map Prod.snd

/-- The tokens after several actions, if none of them is a sleep that fails. -/
def run (tokens : Tokens) (actions : List Action) : Option Tokens :=
  actions.foldlM act tokens

/--
Whether tokens can be shown after others: those that were handed out look at
the same flags, and their clocks went on.
-/
structure Precedes (earlier later : Tokens) : Prop where
  holders : earlier.holders <+: later.holders
  clock : ∀ token < earlier.holders.length, (earlier.clock token).Precedes (later.clock token)

@[refl]
theorem Precedes.refl (tokens : Tokens) : tokens.Precedes tokens :=
  ⟨List.prefix_refl _, fun _ _ => .refl _⟩

theorem Precedes.trans
    {first second third : Tokens}
    (left : first.Precedes second)
    (right : second.Precedes third) :
    first.Precedes third where
  holders := left.holders.trans right.holders
  clock token handedOut :=
    (left.clock token handedOut).trans
      (right.clock token (Nat.lt_of_lt_of_le handedOut left.holders.length_le))

/-- Tokens that share a flag go on to share it. -/
theorem Precedes.share
    {earlier later : Tokens}
    (precedes : earlier.Precedes later)
    {first second : Nat}
    (share : earlier.Share first second) :
    later.Share first second := by
  have kept : ∀ {token flag : Nat},
      earlier.holders[token]? = some flag → later.holders[token]? = some flag := by
    intro token flag held
    rcases List.getElem?_eq_some_iff.mp held with ⟨handedOut, rfl⟩
    exact List.prefix_iff_getElem?.mp precedes.holders token handedOut
  rcases share with ⟨flag, one, other⟩
  exact ⟨flag, kept one, kept other⟩

theorem precedes_handOut
    (tokens : Tokens)
    {flag : Nat}
    (isFlag : flag < tokens.flags.length) :
    tokens.Precedes (tokens.handOut flag isFlag) where
  holders := List.prefix_append ..
  clock token handedOut := by
    have same : (tokens.handOut flag isFlag).clock token = tokens.clock token := by
      simp [clock, handOut, List.getElem?_append_left handedOut]
    rw [same]

theorem precedes_create (tokens : Tokens) : tokens.Precedes tokens.create where
  holders := List.prefix_append ..
  clock token handedOut := by
    have isFlag := tokens.isFlag _ (List.getElem_mem handedOut)
    have same : tokens.create.clock token = tokens.clock token := by
      simp [clock, create, handOut, handedOut, List.getElem?_append_left, isFlag]
    rw [same]

theorem precedes_of_act
    {tokens later : Tokens}
    {action : Action}
    (acts : tokens.act action = some later) :
    tokens.Precedes later := by
  cases action with
  | create =>
    cases acts
    exact tokens.precedes_create
  | copy token =>
    cases acts
    rw [copy]
    split
    · exact tokens.precedes_handOut _
    · exact .refl tokens
  | cancelFrom instant token =>
    cases acts
    refine ⟨?_, fun other _ => ?_⟩
    · rw [cancelFrom]
      split <;> exact List.prefix_refl _
    · by_cases share : tokens.Share token other
      · rw [clock_cancelFrom_of_share share]
        exact Clock.precedes_cancelFrom instant _
      · rw [clock_cancelFrom_of_not_share share]
  | sleep token nanoseconds =>
    rcases Option.map_eq_some_iff.mp acts with ⟨⟨slept, _⟩, sleeps, rfl⟩
    rcases Option.map_eq_some_iff.mp sleeps with ⟨clock, asleep, ends⟩
    cases ends
    have onward := (Clock.precedes_sleep asleep).now
    exact ⟨List.prefix_refl _, fun other _ => Clock.precedes_of_le onward⟩

/-- No action takes a cancellation back, and none separates tokens that share a flag. -/
theorem precedes_of_run
    {tokens later : Tokens}
    {actions : List Action}
    (runs : tokens.run actions = some later) :
    tokens.Precedes later := by
  induction actions generalizing tokens with
  | nil =>
    cases runs
    exact .refl later
  | cons action rest ih =>
    rcases Option.bind_eq_some_iff.mp runs with ⟨next, acts, runs⟩
    exact (precedes_of_act acts).trans (ih runs)

/-- A copy is seen through the same clock as its original, whatever is done with tokens. -/
theorem clock_copy_of_run
    {tokens later : Tokens}
    {token : Nat}
    (handedOut : token < tokens.holders.length)
    {actions : List Action}
    (runs : (tokens.copy token).run actions = some later) :
    later.clock tokens.holders.length = later.clock token :=
  ((precedes_of_run runs).share (share_copy handedOut)).clock_eq.symm

/-- Once a token is cancelled, all that share its flag are and stay so. -/
theorem isCancelled_of_run_cancel
    {tokens later : Tokens}
    {token other : Nat}
    (share : tokens.Share token other)
    {actions : List Action}
    (runs : (tokens.cancel token).run actions = some later) :
    (later.clock other).isCancelled = true := by
  have cancelled : ((tokens.cancel token).clock other).isCancelled = true := by
    have now : tokens.now = (tokens.clock other).now := rfl
    rw [cancel, clock_cancelFrom_of_share share, now, Clock.cancelFrom_now,
      Clock.isCancelled_cancel]
  have precedes : (tokens.cancel token).Precedes later := precedes_of_run runs
  refine (precedes.clock other ?_).isCancelled cancelled
  rcases share with ⟨flag, one, another⟩
  have handedOut := (List.getElem?_eq_some_iff.mp another).1
  simpa [cancel, cancelFrom, one] using handedOut

end Tokens

end RoverLink
