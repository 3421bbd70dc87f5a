import RoverLink.Proofs.Session.Numbered

/-!
# When the number of a request comes back

A session with checks numbers its requests modulo 256, and a call takes its
number before anything is written.  Two requests therefore have the same number
exactly if the number of calls from the one to the other is a multiple of 256,
and calls that never write anything count as well (`numbers_apart`).  So two
calls that write can have the same number although none between them writes
(`exists_same_number`).
-/

namespace RoverLink

/-! ### The number in a request -/

/-- The number that a request carries: the first two digits of its suffix. -/
def Request.number? (request : List Char) : Option UInt8 :=
  match Text.splitLast? ':' request with
  | some (_, high :: low :: _) => Reply.hexOctet? high low
  | _ => none

/-- A request of a codec with checks carries the number that the codec gave it. -/
theorem Codec.number?_encode
    {codec : Codec}
    (checking : codec.mode = .crc8)
    (command : Command) :
    Request.number? (codec.encode command).1 = some (codec.encode command).2.lastId := by
  have split : (codec.encode command).1 =
      ('#' :: command.body) ++ ':' :: (codec.suffix command ++ ['\r']) := by
    simp [encode_eq_withSuffix, Request.withSuffix, Request.head]
  have colon : ':' ∉ codec.suffix command ++ ['\r'] := by
    simp [codec.not_mem_suffix command]
  have suffix : codec.suffix command =
      hexDigits (codec.lastId + 1) ++
        hexDigits (Checksum.crc8
          (Text.Utf8.encode (checkedHead command (codec.lastId + 1)))) := by
    simp [suffix, checking, checkedSuffix]
  rw [Request.number?, split, Text.splitLast?_append_cons _ colon, suffix,
    encode_of_checking checking]
  exact Reply.hexOctet?_digitChar _

/-- With checks, a reply with another number is fit only to refuse a request. -/
theorem Codec.matchesRequest_iff_of_ne
    {codec : Codec}
    (checking : codec.mode = .crc8)
    {reply : Reply}
    {id : UInt8}
    (number : reply.id = some id)
    (other : id ≠ codec.lastId) :
    codec.matchesRequest reply = true ↔ reply.status ≠ 0 := by
  simp [matchesRequest, checking, number, other]

namespace Session

variable {Stream : Type} [ByteStream Stream]

/-! ### Numbers of two calls -/

/-- The request that a call writes, if it writes anything. -/
def request
    (session : Session (Logged Stream))
    (sending : Sending Stream) :
    List Char :=
  (session.codec.encode sending.command).1

/-- How many of some calls try to write their request. -/
def countWriting (session : Session (Logged Stream)) : List (Sending Stream) → Nat
  | [] => 0
  | sending :: sendings =>
    (if session.tries sending = [] then 0 else 1) +
      countWriting (session.deliver sending).state sendings

/-- Whether all that a call writes is its request, once for each attempt. -/
def WritesRequest (session : Session (Logged Stream)) (sending : Sending Stream) : Prop :=
  (session.deliver sending).state.stream.transfers =
    session.stream.transfers ++
      (session.tries sending).map
        (Ending.transfer (Text.Utf8.encode (session.request sending)))

theorem writesRequest
    (session : Session (Logged Stream))
    (sending : Sending Stream) :
    session.WritesRequest sending :=
  transfers_sendWithin (session.ready sending) sending.command sending.limits sending.clock

/-- The number that a session gives follows from the number of calls before. -/
theorem encode_deliverAll
    {session : Session (Logged Stream)}
    (checking : session.codec.mode = .crc8)
    (before : List (Sending Stream))
    (command : Command) :
    ((session.deliverAll before).codec.encode command).2 =
      ⟨.crc8, session.codec.lastId + UInt8.ofNat (before.length + 1)⟩ := by
  rw [codec_deliverAll checking, Codec.encode_of_checking rfl, UInt8.ofNat_add,
    ← UInt8.add_assoc]
  rfl

theorem number?_request
    {session : Session (Logged Stream)}
    (checking : session.codec.mode = .crc8)
    (before : List (Sending Stream))
    (sending : Sending Stream) :
    Request.number? ((session.deliverAll before).request sending) =
      some (session.codec.lastId + UInt8.ofNat (before.length + 1)) := by
  rw [request, Codec.number?_encode, encode_deliverAll checking]
  rw [codec_deliverAll checking]

/-- A number comes back after each 256 requests, and not before. -/
theorem add_ofNat_eq_iff (number : UInt8) (place distance : Nat) :
    number + UInt8.ofNat place = number + UInt8.ofNat (place + distance) ↔ 256 ∣ distance := by
  rw [← UInt8.toNat_inj]
  simp only [UInt8.toNat_add, UInt8.toNat_ofNat']
  omega

/-- Two calls of a session with checks, and the calls before and between them. -/
structure NumbersApart
    (session : Session (Logged Stream))
    (before : List (Sending Stream))
    (first : Sending Stream)
    (between : List (Sending Stream))
    (second : Sending Stream) :
    Prop where
  written :
    (session.deliverAll before).WritesRequest first ∧
      (session.deliverAll (before ++ first :: between)).WritesRequest second
  /--
  The two requests carry numbers, and these are the same exactly if the number
  of calls from the first to the second is a multiple of 256.
  -/
  numbered : ∃ number other,
    Request.number? ((session.deliverAll before).request first) = some number ∧
      Request.number? ((session.deliverAll (before ++ first :: between)).request second) =
        some other ∧
      (number = other ↔ 256 ∣ between.length + 1)
  /-- With fewer than 255 calls between them, the requests carry different numbers. -/
  apart : between.length < 255 →
    Request.number? ((session.deliverAll before).request first) ≠
      Request.number? ((session.deliverAll (before ++ first :: between)).request second)
  /--
  A late reply with the number of the first request is then no answer to the
  second, unless it is a refusal, which fits every request.
  -/
  late : between.length < 255 →
    ∀ reply, reply.id = Request.number? ((session.deliverAll before).request first) →
      (Codec.matchesRequest
          ((session.deliverAll (before ++ first :: between)).codec.encode second.command).2
          reply = true ↔
        reply.status ≠ 0)

/-- Requests with fewer than 255 calls between them, written or not, have different numbers. -/
theorem numbers_apart
    (stream : Stream)
    (config : SessionConfig)
    (before : List (Sending Stream))
    (first : Sending Stream)
    (between : List (Sending Stream))
    (second : Sending Stream) :
    NumbersApart (Session.new (Logged.start stream) { config with checksum := .crc8 })
      before first between second := by
  have checking :
      (Session.new (Logged.start stream) { config with checksum := .crc8 }).codec.mode = .crc8 :=
    rfl
  generalize Session.new (Logged.start stream) { config with checksum := .crc8 } = session
    at checking
  have numberOfFirst := number?_request checking before first
  have numberOfSecond := number?_request checking (before ++ first :: between) second
  have place : (before ++ first :: between).length + 1 =
      before.length + 1 + (between.length + 1) := by
    simp only [List.length_append, List.length_cons]
    omega
  rw [place] at numberOfSecond
  have recurs := add_ofNat_eq_iff session.codec.lastId (before.length + 1) (between.length + 1)
  have apart : between.length < 255 →
      session.codec.lastId + UInt8.ofNat (before.length + 1) ≠
        session.codec.lastId + UInt8.ofNat (before.length + 1 + (between.length + 1)) := by
    intro few same
    have multiple := Nat.le_of_dvd (by omega) (recurs.mp same)
    omega
  constructor
  case written => exact ⟨writesRequest _ first, writesRequest _ second⟩
  case numbered => exact ⟨_, _, numberOfFirst, numberOfSecond, recurs⟩
  case apart =>
    intro few same
    rw [numberOfFirst, numberOfSecond] at same
    exact apart few (Option.some.inj same)
  case late =>
    intro few reply carried
    rw [numberOfFirst] at carried
    rw [encode_deliverAll checking, place]
    exact Codec.matchesRequest_iff_of_ne rfl carried (apart few)

/-! ### Calls that write nothing -/

/-- A session with checks whose device answers two requests. -/
def answeredTwice : Session (Logged Scripted) :=
  .new (Logged.start (Scripted.empty.replyRepeated (.line ['#', '[', '0', ']']) 2))
    ⟨.withoutBackoff 1, .ofMilliseconds 10000, .crc8⟩

/--
The device answers two requests, and between them 255 calls are cancelled before
they write anything.  Both requests carry the number zero.
-/
theorem exists_same_number :
    ∃ (first : Sending Scripted) (between : List (Sending Scripted)) (second : Sending Scripted),
      (answeredTwice.tries first).any Ending.isSent = true ∧
        ((answeredTwice.deliverAll (first :: between)).tries second).any Ending.isSent = true ∧
        (answeredTwice.deliver first).state.countWriting between < 255 ∧
        Request.number? (answeredTwice.request first) = some 0 ∧
        Request.number? ((answeredTwice.deliverAll (first :: between)).request second) =
          some 0 := by
  let call : Sending Scripted := .prompt (.query 'e' (by decide)) .none .start
  let cancelled : Sending Scripted :=
    .prompt (.query 'e' (by decide)) ⟨none, true⟩ Clock.start.cancel
  refine ⟨call, List.replicate 255 cancelled, call, ?_, ?_, ?_, ?_, ?_⟩
  all_goals decide +kernel

end Session

end RoverLink
