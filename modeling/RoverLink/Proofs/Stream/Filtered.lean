import RoverLink.Proofs.Session.StreamMap

/-!
# Streams that withhold lines

A `Filtered` stream does what the stream inside of it does, but a read that
takes a withheld line brings nothing.  No session can tell it from the stream
inside if its codec skips all the lines that are withheld (`withhold`).
-/

namespace RoverLink

/-- A stream that withholds some of its lines. -/
structure Filtered (Stream : Type) where
  stream : Stream
  isWithheld : List Char → Bool

namespace Filtered

variable {Stream : Type}

/-- The stream without some of its lines. -/
def without (isWithheld : List Char → Bool) (stream : Stream) : Filtered Stream :=
  ⟨stream, isWithheld⟩

/-- What a read brings when lines are withheld. -/
def heard (isWithheld : List Char → Bool) : ReadOutcome → ReadOutcome
  | .line text => if isWithheld text then .nothing else .line text
  | other => other

theorem isRetried_heard (isWithheld : List Char → Bool) (outcome : ReadOutcome) :
    (heard isWithheld outcome).isRetried = outcome.isRetried := by
  cases outcome with
  | line text =>
    rw [heard]
    split <;> rfl
  | nothing => rfl
  | quiet => rfl
  | failed error => rfl

theorem heard_eq_quiet_iff (isWithheld : List Char → Bool) (outcome : ReadOutcome) :
    heard isWithheld outcome = .quiet ↔ outcome = .quiet := by
  cases outcome with
  | line text =>
    rw [heard]
    split <;> simp
  | nothing => rfl
  | quiet => rfl
  | failed error => rfl

variable [ByteStream Stream]

instance : ByteStream (Filtered Stream) where
  write octets filtered :=
    let response := ByteStream.write octets filtered.stream
    ⟨response.outcome, response.lapse, response.cancels,
      without filtered.isWithheld response.stream⟩
  readLine filtered :=
    let response := ByteStream.readLine filtered.stream
    ⟨heard filtered.isWithheld response.outcome, response.lapse, response.cancels,
      without filtered.isWithheld response.stream⟩
  discardInput filtered :=
    let dropped := ByteStream.discardInput filtered.stream
    (dropped.1, without filtered.isWithheld dropped.2)
  supply filtered := ByteStream.supply filtered.stream
  supply_write octets filtered := ByteStream.supply_write octets filtered.stream
  supply_discardInput filtered := ByteStream.supply_discardInput filtered.stream
  supply_readLine filtered := ByteStream.supply_readLine filtered.stream
  supply_readLine_lt filtered retried :=
    ByteStream.supply_readLine_lt filtered.stream
      ((isRetried_heard filtered.isWithheld _).symm.trans retried)

/-- Withholding lines that a codec skips makes no difference to it. -/
def withhold
    {codec : Codec}
    {isWithheld : List Char → Bool}
    (skipped : ∀ text, isWithheld text = true → codec.judge (Text.trim text) = .skipped) :
    CodecMap codec Stream (Filtered Stream) where
  toFun := without isWithheld
  heard := heard isWithheld
  heard_eq_quiet_iff := heard_eq_quiet_iff isWithheld
  endedBy?_heard := by
    rintro waiting rfl outcome
    cases outcome with
    | line text =>
      rw [heard]
      split
      next late => simp [Session.Waiting.endedBy?, skipped text late]
      next => rfl
    | nothing => rfl
    | quiet => rfl
    | failed error => rfl
  write_toFun _ _ := rfl
  readLine_toFun _ := rfl
  discardInput_toFun _ := rfl

end Filtered

end RoverLink
