import RoverLink.Error
import RoverLink.Time.Clock

/-!
# Steps

The operations of sessions and controllers take a state and a clock, and end with a result, a new
state and a new clock, also when they fail.
-/

namespace RoverLink

/-- How an operation ended. -/
structure Step (State Result : Type) where
  result : Except Error Result
  state : State
  clock : Clock

namespace Step

variable {State Other Result Changed : Type}

/-- The same step seen from a state that holds the state of the step. -/
def within (step : Step State Result) (hold : State → Other) : Step Other Result :=
  ⟨step.result, hold step.state, step.clock⟩

/-- The step with a function applied to what it gave. -/
def map (change : Result → Changed) (step : Step State Result) : Step State Changed :=
  ⟨step.result.map change, step.state, step.clock⟩

/-- The step of an operation that fails before it does anything. -/
def refuse (error : Error) (state : State) (clock : Clock) : Step State Result :=
  ⟨.error error, state, clock⟩

@[simp]
theorem state_within (step : Step State Result) (hold : State → Other) :
    (step.within hold).state = hold step.state :=
  rfl

@[simp]
theorem result_within (step : Step State Result) (hold : State → Other) :
    (step.within hold).result = step.result :=
  rfl

@[simp]
theorem clock_within (step : Step State Result) (hold : State → Other) :
    (step.within hold).clock = step.clock :=
  rfl

@[simp]
theorem state_map (change : Result → Changed) (step : Step State Result) :
    (step.map change).state = step.state :=
  rfl

@[simp]
theorem clock_map (change : Result → Changed) (step : Step State Result) :
    (step.map change).clock = step.clock :=
  rfl

theorem result_map_eq_error_iff {change : Result → Changed} {step : Step State Result}
    {error : Error} : (step.map change).result = .error error ↔ step.result = .error error := by
  rw [map]
  cases step.result <;> simp [Except.map]

end Step

end RoverLink
