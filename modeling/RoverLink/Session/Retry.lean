import RoverLink.Time.Span

/-!
# Retry policies

How often a request is sent in all, and how long to wait before it is sent again.  The waits form a
geometric sequence up to an upper bound.
-/

namespace RoverLink

open Decimal

/-- The waits between attempts. -/
structure Backoff where
  initial : Span
  /-- The factor from one wait to the next; at least one is used. -/
  multiplier : Binary64
  longest : Span
  deriving DecidableEq, Repr

namespace Backoff

def one : Binary64 :=
  Binary64.ofInt 1

def none : Backoff :=
  ⟨.zero, one, .zero⟩

def fixed (delay : Span) : Backoff :=
  ⟨delay, one, delay⟩

/-- Ten milliseconds, doubled each time, up to half a second. -/
def standard : Backoff :=
  ⟨.ofMilliseconds 10, Binary64.ofInt 2, .ofMilliseconds 500⟩

/-- The product of `result` and a power of `base`, by repeated squaring within `fuel` steps. -/
def powerFrom : Nat → Binary64 → Binary64 → Nat → Binary64
  | 0, result, _, _ => result
  | fuel + 1, result, base, exponent =>
    let result := if exponent % 2 = 1 then result * base else result
    if exponent / 2 = 0 then result else powerFrom fuel result (base * base) (exponent / 2)

def power (base : Binary64) (exponent : Nat) : Binary64 :=
  powerFrom (exponent + 1) one base exponent

/-- The wait after an attempt; the first attempt has the number one. -/
def delayAfter (backoff : Backoff) (attempt : Nat) : Span :=
  if attempt = 0 ∨ backoff.initial = .zero then
    .zero
  else
    let multiplier := if one.le backoff.multiplier then backoff.multiplier else one
    let delay := backoff.initial.toSeconds * power multiplier (min (attempt - 1) 32)
    let longest := backoff.longest.toSeconds
    (Span.ofSeconds? (if delay.le longest then delay else longest)).getD backoff.longest

end Backoff

/-- How often, and with which waits, a request is sent. -/
structure RetryPolicy where
  /-- The number of attempts, the first one included. -/
  maxAttempts : Nat
  backoff : Backoff
  deriving DecidableEq, Repr

namespace RetryPolicy

def standard : RetryPolicy :=
  ⟨5, .standard⟩

/-- At least one attempt, with the standard waits. -/
def withAttempts (maxAttempts : Nat) : RetryPolicy :=
  ⟨max maxAttempts 1, .standard⟩

def withoutBackoff (maxAttempts : Nat) : RetryPolicy :=
  ⟨max maxAttempts 1, .none⟩

/-- Whether another attempt is allowed after some. -/
def canRetry (policy : RetryPolicy) (attempts : Nat) : Bool :=
  attempts < policy.maxAttempts

/-- The wait after an attempt. -/
def delayAfter (policy : RetryPolicy) (attempt : Nat) : Span :=
  policy.backoff.delayAfter attempt

end RetryPolicy

end RoverLink
