import RoverLink.Checksum.Mode
import RoverLink.Session.Retry

/-!
# Session configurations
-/

namespace RoverLink

/-- How a session sends its requests. -/
structure SessionConfig where
  retry : RetryPolicy
  replyTimeout : Span
  checksum : ChecksumMode
  deriving DecidableEq, Repr

/-- The standard retries, one second for a reply, and no checks. -/
def SessionConfig.standard : SessionConfig :=
  ⟨.standard, .ofMilliseconds 1000, .placeholder⟩

end RoverLink
