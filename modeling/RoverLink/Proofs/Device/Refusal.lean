import RoverLink.Motor
import RoverLink.Proofs.Device.Task
import RoverLink.Proofs.Reply.Refusal
import RoverLink.Proofs.Session.Heard

/-!
# What becomes of a refusal

The status and the text of a refusal reach the caller: a request fails with
both, and the upload of a configuration is rejected with both.  This holds for
every text that is written as a literal without a closing bracket, since such a
bracket ends the list of the line.  A refusal whose literal has one is malformed,
and the caller learns neither status nor text but that the JSON library refuses
what is left of the list (`tells_refusals`).
-/

namespace RoverLink

open Reply (cutList refusal)

/-! ### Lines -/

/-- The error of a refusal whose literal is cut off, so that its list is refused. -/
def unreadable (code : Int32) (literal : List Char) : Error :=
  .malformedReply (String.ofList (refusal code literal))
    (.refusedList (String.ofList (cutList code literal)))

theorem kind_refusal (code : Int32) (literal : List Char) :
    LineKind.ofLine (refusal code literal) = .frame :=
  rfl

section

variable {literal text : List Char} (isLiteral : Json.IsLiteral literal text)

include isLiteral

/-- A positive status is fatal, and the error has the text. -/
theorem isFatal_refusal
    {code : Int32}
    (positive : 0 < code)
    (unclosed : ']' ∉ literal) :
    IsFatal (refusal code literal) (.deviceError code (some (String.ofList text))) := by
  intro waiting line trimmed
  have accepted : waiting.codec.Accepts (refusal code literal)
      ⟨code, [.text (String.ofList text)], none, none⟩ := by
    refine ⟨Reply.read_refusal isLiteral code unclosed, ?_, ?_⟩
    · rw [Codec.verify?]
      simp
    · rw [Codec.matchesRequest]
      simp
  have judged := Codec.judge_of_accepts (kind_refusal code literal) accepted
  have status : StatusClass.ofStatus code = .fatal code := by
    have nonzero : code ≠ 0 := by
      rintro rfl
      exact absurd positive (by decide)
    rw [StatusClass.ofStatus, if_neg nonzero, if_neg (Int32.not_lt.mpr (Int32.le_of_lt positive))]
  refine ⟨_, by rw [Session.Waiting.endedBy?, trimmed, judged], ?_⟩
  simp only [Ending.result?, status]
  rfl

/-- A refusal that is cut off inside of its text is fatal as a malformed line. -/
theorem isFatal_refusal_of_mem (code : Int32) (closed : ']' ∈ literal) :
    IsFatal (refusal code literal) (unreadable code literal) := by
  intro waiting line trimmed
  have judged : waiting.codec.judge (refusal code literal) =
      .undecodable (.malformed (.invalidList (cutList code literal))) := by
    rw [Codec.judge, kind_refusal, Reply.read_refusal_of_mem isLiteral code closed]
  refine ⟨_, by rw [Session.Waiting.endedBy?, trimmed, judged], ?_⟩
  rfl

end

/-! ### Requests and uploads -/

namespace Device

/--
Whether requests and uploads end with certain errors, after one write, when a
line is the first that is no noise after that write.
-/
structure Relays
    (Stream Config : Type)
    [ByteStream Stream]
    [DeviceConfiguration Config]
    (line : List Char)
    (requested uploaded : Error) :
    Prop where
  send : ∀ {session : Session Stream} {command : Command} {clock : Clock} {text : List Char},
    Text.trim text = line →
      session.Hears command clock text →
        session.SettlesAtOnce command clock (.error requested)
  /-- The outputs are off before the configuration is uploaded. -/
  configure : ∀ {device : Device Stream Config} {config : Config} {command : Command}
      {clock : Clock} {text : List Char},
    uploadCommand config = .ok command →
      (device.ensureDisabled clock).result = .ok () →
        Text.trim text = line →
          (device.ensureDisabled clock).state.session.Hears command
              (device.ensureDisabled clock).clock text →
            (device.configure config clock).result = .error uploaded
  updateConfig : ∀ {device : Device Stream Config} {config : Config} {command : Command}
      {clock : Clock} {text : List Char},
    device.isConfigured = true →
      uploadCommand config = .ok command →
        Text.trim text = line →
          device.session.Hears command clock text →
            (device.updateConfig config clock).result = .error uploaded

section

variable {Stream Config : Type} [ByteStream Stream]

theorem result_upload_of_settlesAtOnce
    {device : Device Stream Config}
    {command : Command}
    {clock : Clock}
    {error : Error}
    (settles : device.session.SettlesAtOnce command clock (.error error))
    (config : Config) :
    (device.upload config command clock).result = .error (rejection error) := by
  have sent : (device.transmit command .none clock).result = .error error := settles.result
  rw [upload_eq]
  simp only [sent]
  rfl

variable [DeviceConfiguration Config]

/-- A fatal line is relayed, and as a rejection to those who upload. -/
theorem relays_of_isFatal
    {line : List Char}
    {error : Error}
    (fatal : IsFatal line error) :
    Relays Stream Config line error (rejection error) where
  send := by
    rintro session command clock text rfl hears
    exact Session.settlesAtOnce_of_isFatal hears fatal
  configure := by
    rintro device config command clock text uploads off rfl hears
    have settles := Session.settlesAtOnce_of_isFatal hears fatal
    simp only [configure, uploads, off]
    exact result_upload_of_settlesAtOnce settles config
  updateConfig := by
    rintro device config command clock text configured uploads rfl hears
    have settles := Session.settlesAtOnce_of_isFatal hears fatal
    rcases Option.isSome_iff_exists.mp configured with ⟨accepted, isAccepted⟩
    simp only [updateConfig, requireConfig, isAccepted, uploads]
    exact result_upload_of_settlesAtOnce settles config

/--
The status and the text of a refusal are relayed if the text is written without
a closing bracket.  Otherwise the line is malformed.
-/
theorem tells_refusals
    {code : Int32}
    (positive : 0 < code)
    {message : String}
    {literal : List Char}
    (isLiteral : Json.IsLiteral literal message.toList) :
    (']' ∉ literal →
      Relays Stream Config (refusal code literal)
        (.deviceError code (some message)) (.configurationRejected code (some message))) ∧
      (']' ∈ literal →
        Relays Stream Config (refusal code literal)
          (unreadable code literal) (unreadable code literal)) := by
  constructor
  · intro unclosed
    have fatal := isFatal_refusal isLiteral positive unclosed
    rw [String.ofList_toList] at fatal
    exact relays_of_isFatal fatal
  · intro closed
    exact relays_of_isFatal (isFatal_refusal_of_mem isLiteral code closed)

end

/-- A device that sends a log line, and then refuses what it is asked. -/
def refusing (literal : List Char) : Session Scripted :=
  .new (Scripted.empty.reply [.line ['#', '!', 'l', 'o', 'g'], .line (refusal 3 literal)])
    ⟨.withoutBackoff 5, .ofMilliseconds 1000, .placeholder⟩

theorem hears_refusing (literal : List Char) (command : Command) :
    (refusing literal).Hears command .start (refusal 3 literal) := by
  have idle : ∀ arrival ∈ [Arrival.line ['#', '!', 'l', 'o', 'g']], arrival.IsIdle := by
    intro arrival member
    cases List.mem_singleton.mp member
    exact .line .log
  exact Session.hears_reply _ command .start idle _ []

/-- A quote and an opening bracket in the text of a refusal do no harm. -/
theorem tells_refusals_quoted :
    let literal := ['\\', '"', 'P', '[', '1']
    let message := "\"P[1"
    let motors : Device Scripted MotorConfig := .new "motors" (refusing literal)
    (0 : Int32) < 3 ∧ Json.IsLiteral literal message.toList ∧ ']' ∉ literal ∧
      (∀ command, ((refusing literal).send command .start).result =
        .error (.deviceError 3 (some message))) ∧
      (motors.configure .standard .start).result =
        .error (.configurationRejected 3 (some message)) := by
  intro literal message motors
  have positive : (0 : Int32) < 3 := by decide
  have isLiteral : Json.IsLiteral literal message.toList := by
    have characters : message.toList = ['"', 'P', '[', '1'] := by decide
    rw [characters]
    refine .named ?_ (.plain ?_ ?_ ?_ (.plain ?_ ?_ ?_ (.plain ?_ ?_ ?_ .nil))) <;> decide
  have unclosed : ']' ∉ literal := by decide
  have relays : Relays Scripted MotorConfig (refusal 3 literal) _ _ :=
    (tells_refusals positive isLiteral).1 unclosed
  have trimmed : Text.trim (refusal 3 literal) = refusal 3 literal := by decide
  refine ⟨positive, isLiteral, unclosed, ?send, ?configure⟩
  case send =>
    intro command
    exact (relays.send trimmed (hears_refusing literal command)).result
  case configure =>
    have uploads : (uploadCommand MotorConfig.standard).isOk = true := by decide +kernel
    cases command : uploadCommand MotorConfig.standard with
    | error error => simp [command, Except.isOk, Except.toBool] at uploads
    | ok upload => exact relays.configure command rfl trimmed (hears_refusing literal upload)

/-- The text of this refusal is a closing bracket, and the caller does not learn of it. -/
theorem exists_refusal_untold :
    let line := ['#', '[', '3', ',', '"', ']', '"', ']']
    (0 : Int32) < 3 ∧ Json.IsLiteral [']'] "]".toList ∧ refusal 3 [']'] = line ∧
      ∀ command, (refusing [']']).Hears command .start line ∧
        ((refusing [']']).send command .start).result ≠
          .error (.deviceError 3 (some "]")) := by
  have isLiteral : Json.IsLiteral [']'] "]".toList :=
    .plain (by decide) (by decide) (by decide) .nil
  have fatal := isFatal_refusal_of_mem isLiteral 3 (by decide)
  refine ⟨by decide, isLiteral, by decide, ?_⟩
  intro command
  have hears := hears_refusing [']'] command
  have settles := Session.settlesAtOnce_of_isFatal hears fatal
  refine ⟨hears, ?_⟩
  rw [settles.result]
  simp [unreadable]

end Device

end RoverLink
