import RoverLink.Decimal.Binary64

/-!
# Spans of time

A span is a count of nanoseconds that makes fewer than `2^64` seconds.  Spans in seconds are
binary64 numbers, and reading one rounds to the nearest nanosecond, a tie to the even one.
-/

namespace RoverLink

open Decimal

/-- A span of time. -/
structure Span where
  /-- The length in nanoseconds. -/
  nanoseconds : Nat
  /-- The length is less than `2^64` seconds. -/
  bounded : nanoseconds < 0x10000000000000000 * 1000000000
  deriving DecidableEq, Repr

namespace Span

def zero : Span :=
  ⟨0, by decide⟩

def longest : Span :=
  ⟨0x10000000000000000 * 1000000000 - 1, by decide⟩

/-- The span of a count of nanoseconds, if it is short enough. -/
def ofNanoseconds? (count : Nat) : Option Span :=
  if bounded : count < 0x10000000000000000 * 1000000000 then some ⟨count, bounded⟩ else none

def ofMilliseconds (count : UInt64) : Span :=
  ⟨count.toNat * 1000000, by have := count.toNat_lt; omega⟩

def ofParts (seconds nanoseconds : Nat) : Span :=
  (ofNanoseconds? (seconds * 1000000000 + nanoseconds)).getD longest

def wholeSeconds (span : Span) : Nat :=
  span.nanoseconds / 1000000000

/-- The nanoseconds of a span beyond its whole seconds. -/
def subsecond (span : Span) : Nat :=
  span.nanoseconds % 1000000000

/-- The whole milliseconds of a span, modulo `2^64`. -/
def milliseconds (span : Span) : Nat :=
  span.nanoseconds / 1000000 % 0x10000000000000000

def toSeconds (span : Span) : Binary64 :=
  Binary64.ofInt span.wholeSeconds +
    Binary64.ofInt span.subsecond / Binary64.ofInt 1000000000

/-- The span of a number of seconds, if it is neither negative nor too long. -/
def ofSeconds? (seconds : Binary64) : Option Span :=
  match seconds.view with
  | .finite negative units =>
    if negative ∧ 0 < units then none
    else ofNanoseconds? (Binary64.divideToEven (units * 1000000000) Binary64.unitsPerOne)
  | _ => none

end Span

end RoverLink
