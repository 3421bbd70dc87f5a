import RoverLink.Time.Clock

/-!
# Tokens for cancelling

A token can be copied, and all copies of a token share one flag.  Once the flag is set it stays set,
a sleep on any of the copies returns at once, and a sleep that is under way ends early.

An operation that is handed a token sees it through a clock: the instant is the same for all tokens,
and the token counts as cancelled from the instant on at which its flag is set.
-/

namespace RoverLink

/-- All tokens that were handed out, and the flags that they share. -/
structure Tokens where
  now : Nat
  /-- From when on each flag is set, if it ever is. -/
  flags : List (Option Nat)
  /-- Which flag each token looks at. -/
  holders : List Nat
  isFlag : ∀ flag ∈ holders, flag < flags.length
  deriving DecidableEq, Repr

namespace Tokens

def empty : Tokens where
  now := 0
  flags := []
  holders := []
  isFlag := by simp

/-- The clock of an operation that is handed a token; what was not handed out is never cancelled. -/
def clock (tokens : Tokens) (token : Nat) : Clock :=
  ⟨tokens.now, (tokens.holders[token]?.bind fun flag => tokens.flags[flag]?).join⟩

/-- Whether each token is cancelled, in the order in which they were handed out. -/
def states (tokens : Tokens) : List Bool :=
  (List.range tokens.holders.length).map fun token => (tokens.clock token).isCancelled

/-- Another token, which looks at a flag. -/
def handOut (tokens : Tokens) (flag : Nat) (isFlag : flag < tokens.flags.length) : Tokens where
  now := tokens.now
  flags := tokens.flags
  holders := tokens.holders ++ [flag]
  isFlag := by
    intro held member
    rcases List.mem_append.mp member with old | new
    · exact tokens.isFlag held old
    · rwa [List.mem_singleton.mp new]

/-- A token with a flag of its own. -/
def create (tokens : Tokens) : Tokens :=
  let extended : Tokens :=
    { tokens with
      flags := tokens.flags ++ [none]
      isFlag := fun flag held => by
        simpa using Nat.lt_succ_of_lt (tokens.isFlag flag held) }
  extended.handOut tokens.flags.length (by simp [extended])

/-- A copy of a token. -/
def copy (tokens : Tokens) (token : Nat) : Tokens :=
  if held : token < tokens.holders.length then
    tokens.handOut tokens.holders[token] (tokens.isFlag _ (List.getElem_mem held))
  else
    tokens

/-- The tokens of which one is cancelled from an instant on. -/
def cancelFrom (tokens : Tokens) (instant token : Nat) : Tokens :=
  match tokens.holders[token]? with
  | some flag =>
    { tokens with
      flags := tokens.flags.set flag ((tokens.clock token).cancelFrom instant).cancelledFrom
      isFlag := by simpa using tokens.isFlag }
  | none => tokens

def cancel (tokens : Tokens) (token : Nat) : Tokens :=
  tokens.cancelFrom tokens.now token

/--
Whether a sleep on a token lasts to its end, and the tokens after it.  A sleep fails if the instant
of its end is out of range.
-/
def sleep (tokens : Tokens) (token nanoseconds : Nat) : Option (Bool × Tokens) :=
  ((tokens.clock token).sleep true nanoseconds).map fun clock =>
    (!clock.isCancelled, { tokens with now := clock.now })

end Tokens

end RoverLink
