import RoverLink.Proofs.Json.Finite
import RoverLink.Settings.File

/-!
# What settings can be used for

Settings that have been validated open a link and a session, and configure a
motor board exactly if their gains are finite (`usable_of_validate`): the
validation of settings passes over the gains, which the validation of a motor
configuration looks at.  Settings that come from JSON have no other gains.
-/

namespace RoverLink

open Decimal

/-! ### Numbers of documents -/

namespace Document

theorem HasFiniteNumbers.isFinite_of_real?
    {document : Document}
    {number : Binary64}
    (finite : document.HasFiniteNumbers)
    (reads : document.real? = some number) :
    number.isFinite = true := by
  cases finite with
  | real finite =>
    cases reads
    exact finite
  | @whole value small =>
    cases reads
    exact (Json.isBounded_ofRatio_one _ small).isFinite
  | _ => simp [real?] at reads

variable {format : DataFormat} {names : List String} {document : Document} {fields : Fields}

theorem HasFiniteNumbers.of_fields?
    (finite : document.HasFiniteNumbers)
    {bounded : Bool}
    (reads : document.fields? bounded names = some fields) :
    ∀ field ∈ fields.named, field.2.HasFiniteNumbers := by
  cases finite with
  | record each =>
    rw [fields?] at reads
    split at reads
    · cases reads
      exact each
    · simp at reads
  | @list items each =>
    rw [fields?] at reads
    split at reads
    · simp at reads
    · cases reads
      rintro ⟨name, item⟩ member
      exact each item (List.of_mem_zip member).2
  | _ => simp [fields?] at reads

theorem Fields.mem_of_lookup
    {name : String}
    {found : Document}
    (lookup : fields.named.lookup name = some found) :
    (name, found) ∈ fields.named := by
  rcases List.lookup_eq_some_iff.mp lookup with ⟨before, after, split, _⟩
  simp [split]

/-- A field that must be there is one of the fields. -/
theorem Fields.exists_of_required
    {name : String}
    {read : Document → Option α}
    {value : α}
    (reads : fields.required name read = some value) :
    ∃ field ∈ fields.named, read field.2 = some value := by
  rcases Option.bind_eq_some_iff.mp reads with ⟨found, lookup, ofFound⟩
  exact ⟨(name, found), Fields.mem_of_lookup lookup, ofFound⟩

/-- A field with a default is one of the fields, or has its default. -/
theorem Fields.exists_of_defaulted
    {name : String}
    {read : Document → Option α}
    {missing value : α}
    (reads : fields.defaulted name read missing = some value) :
    value = missing ∨ ∃ field ∈ fields.named, read field.2 = some value := by
  rw [defaulted] at reads
  split at reads
  next found lookup => exact .inr ⟨(name, found), Fields.mem_of_lookup lookup, reads⟩
  next => exact .inl (Option.some.inj reads).symm

end Document

open Document

/-- Whether all gains are finite. -/
def PidGains.isFinite (gains : PidGains) : Bool :=
  gains.proportional.isFinite && gains.integral.isFinite && gains.derivative.isFinite

variable {format : DataFormat} {document : Document}

theorem PidGains.isFinite_of_ofDocument?
    {gains : PidGains}
    (finite : document.HasFiniteNumbers)
    (reads : DocumentForm.ofDocument? format document = some gains) :
    gains.isFinite = true := by
  simp only [DocumentForm.ofDocument?, Option.bind_eq_bind, Option.bind_eq_some_iff,
    Option.pure_def, Option.some.injEq] at reads
  rcases reads with ⟨fields, ofFields, _, ofProportional, _, ofIntegral, _, ofDerivative, rfl⟩
  have each := finite.of_fields? ofFields
  have number {name : String} {value : Binary64} (read : fields.required name real? = some value) :
      value.isFinite = true := by
    rcases Fields.exists_of_required read with ⟨field, member, ofField⟩
    exact (each field member).isFinite_of_real? ofField
  simp [PidGains.isFinite, number ofProportional, number ofIntegral, number ofDerivative]

theorem DriverSettings.isFinite_of_ofDocument?
    {driver : DriverSettings}
    (finite : document.HasFiniteNumbers)
    (reads : DocumentForm.ofDocument? format document = some driver) :
    driver.pid.isFinite = true := by
  simp only [DocumentForm.ofDocument?, Option.bind_eq_bind, Option.bind_eq_some_iff,
    Option.pure_def, Option.some.injEq] at reads
  rcases reads with ⟨fields, ofFields, _, _, _, _, _, ofPid, _, _, rfl⟩
  rcases Fields.exists_of_defaulted ofPid with standard | ⟨field, member, ofField⟩
  · subst standard
    exact (by decide : PidGains.zero.isFinite = true)
  · exact PidGains.isFinite_of_ofDocument? (finite.of_fields? ofFields field member) ofField

namespace ControllerSettings

theorem isFinite_of_ofDocument?
    {settings : ControllerSettings}
    (finite : document.HasFiniteNumbers)
    (reads : DocumentForm.ofDocument? format document = some settings) :
    settings.driver.pid.isFinite = true := by
  simp only [DocumentForm.ofDocument?, Option.bind_eq_bind, Option.bind_eq_some_iff,
    Option.pure_def, Option.some.injEq] at reads
  rcases reads with ⟨fields, ofFields, ⟨rover, driver⟩, ofNavigation, session, _, rfl⟩
  rcases Fields.exists_of_required ofNavigation with ⟨field, member, ofField⟩
  simp only [navigation?, Option.bind_eq_bind, Option.bind_eq_some_iff, Option.pure_def,
    Option.some.injEq, Prod.mk.injEq] at ofField
  rcases ofField with ⟨inner, ofInner, _, _, _, ofDriver, rfl, rfl⟩
  rcases Fields.exists_of_required ofDriver with ⟨innerField, innerMember, ofInnerField⟩
  have navigation := finite.of_fields? ofFields field member
  exact DriverSettings.isFinite_of_ofDocument?
    (navigation.of_fields? ofInner innerField innerMember) ofInnerField

/-- The gains of settings that are read from JSON are finite. -/
theorem isFinite_of_read_json
    {settings : ControllerSettings}
    {text : List Char}
    (reads : read .json text = .ok settings) :
    settings.driver.pid.isFinite = true := by
  rw [read] at reads
  split at reads
  next ofText =>
    cases reads
    rcases Option.bind_eq_some_iff.mp ofText with ⟨document, ofJson, ofDocument⟩
    exact isFinite_of_ofDocument? (Json.hasFiniteNumbers_of_read? ofJson) ofDocument
  next => simp at reads

end ControllerSettings

/-! ### Validated settings -/

/-- What is checked of the settings of a session. -/
structure SessionSettings.IsValid (session : SessionSettings) : Prop where
  port : session.port ≠ ""
  baudRate : 0 < session.baudRate
  maxAttempts : 0 < session.maxAttempts
  replyTimeout : 0 < session.replyTimeout.toNat

namespace ControllerSettings

/-- What is checked of settings; the gains are not. -/
structure IsValid (settings : ControllerSettings) : Prop where
  wheelDiameter : MotorConfig.isMeasure settings.rover.wheelDiameter = true
  encoderSteps : MotorConfig.isMeasure settings.rover.encoderSteps = true
  maximumSpeed : MotorConfig.isMeasure settings.rover.maximumSpeed = true
  maximumSignal : 0 < settings.driver.maximumSignal
  left : EncoderDirections.isPolarity settings.driver.directions.left = true
  right : EncoderDirections.isPolarity settings.driver.directions.right = true
  session : ∀ session, settings.session = some session → session.IsValid

theorem countFault?_eq_none_iff (key : String) (count : Nat) :
    countFault? key count = none ↔ 0 < count := by
  simp [countFault?, Nat.pos_iff_ne_zero]

theorem sessionFault?_eq_none_iff (session : SessionSettings) :
    sessionFault? session = none ↔ session.IsValid := by
  simp only [sessionFault?, Option.orElse_eq_orElse, Option.orElse_eq_or, Option.or_eq_none_iff,
    countFault?_eq_none_iff, ite_eq_right_iff, reduceCtorEq, imp_false]
  constructor
  · rintro ⟨port, baudRate, maxAttempts, replyTimeout⟩
    exact ⟨port, baudRate, maxAttempts, replyTimeout⟩
  · rintro ⟨port, baudRate, maxAttempts, replyTimeout⟩
    exact ⟨port, baudRate, maxAttempts, replyTimeout⟩

theorem validate_eq_ok_iff (settings : ControllerSettings) :
    settings.validate = .ok () ↔ settings.IsValid := by
  have checks : settings.validate = .ok () ↔ settings.fault? = none := by
    rw [validate]
    split
    next found => simp [found]
    next none => simp [none]
  rw [checks]
  constructor
  · intro sound
    simp [fault?, measureFault?, directionFault?] at sound
    rcases sound with ⟨diameter, steps, speed, signal, left, right, session⟩
    exact ⟨diameter, steps, speed, signal, left, right,
      fun inner present => (sessionFault?_eq_none_iff inner).mp (session inner present)⟩
  · rintro ⟨diameter, steps, speed, signal, left, right, session⟩
    simp [fault?, measureFault?, directionFault?, diameter, steps, speed, signal, left, right]
    exact fun inner present => (sessionFault?_eq_none_iff inner).mpr (session inner present)

/-- How the session of validated settings is opened. -/
structure OpensSession (settings : ControllerSettings) (session : SessionSettings) : Prop where
  link : ∃ params, settings.linkParams = .ok params ∧ params.validate = .ok () ∧
    params.port = session.port ∧ params.baudRate = session.baudRate
  config : ∃ config, settings.sessionConfig = .ok config ∧
    (config.retry.maxAttempts = session.maxAttempts ∧ 1 ≤ config.retry.maxAttempts) ∧
    (config.replyTimeout = .ofMilliseconds session.replyTimeout ∧
      0 < config.replyTimeout.nanoseconds) ∧
    config.checksum = session.checksum

section

variable {settings : ControllerSettings} (valid : settings.IsValid)

include valid

theorem opensSession_of_isValid
    {session : SessionSettings}
    (present : settings.session = some session) :
    settings.OpensSession session := by
  have sound := valid.session session present
  have required : settings.requireSession = .ok session := by
    simp [requireSession, present]
  refine ⟨?link, ?config⟩
  case link =>
    refine ⟨{ LinkParams.ofPort session.port with baudRate := session.baudRate }, ?_, ?_, rfl, rfl⟩
    · rw [linkParams, required]
      rfl
    · simp [LinkParams.validate, LinkParams.fault?, LinkParams.ofPort, sound.port,
        Nat.ne_of_gt sound.baudRate]
  case config =>
    have attempts := sound.maxAttempts
    have timeout := sound.replyTimeout
    refine ⟨⟨.withAttempts session.maxAttempts, .ofMilliseconds session.replyTimeout,
      session.checksum⟩, ?_, ⟨?_, ?_⟩, ⟨rfl, ?_⟩, rfl⟩
    · rw [sessionConfig, required]
      rfl
    · exact Nat.max_eq_left attempts
    · exact Nat.le_max_right _ _
    · exact Nat.mul_pos timeout (by decide)

/-- The validation of the motor board differs in the gains only. -/
theorem motorConfig_validate_of_isValid :
    settings.motorConfig.validate =
      if settings.driver.pid.isFinite then .ok ()
      else .error (.invalidConfiguration "PID gains must be finite") := by
  rcases valid with ⟨diameter, steps, speed, signal, left, right, _⟩
  have positive : ¬settings.driver.maximumSignal ≤ 0 := Int32.not_le.mpr signal
  by_cases finite : settings.driver.pid.isFinite = true
  · rw [if_pos finite]
    rw [PidGains.isFinite] at finite
    simp [MotorConfig.validate, MotorConfig.fault?, motorConfig, diameter, steps, speed, positive,
      finite, left, right]
  · rw [if_neg finite]
    rw [PidGains.isFinite] at finite
    simp [MotorConfig.validate, MotorConfig.fault?, motorConfig, diameter, steps, speed, positive,
      finite]

end

/--
Validated settings open their session, if they have one, and the configuration
of the motor board that is made from them is valid exactly if the gains are
finite.  The gains of settings that are read from JSON always are.
-/
theorem usable_of_validate
    {settings : ControllerSettings}
    (valid : settings.validate = .ok ()) :
    (settings.motorConfig.validate =
      if settings.driver.pid.isFinite then .ok ()
      else .error (.invalidConfiguration "PID gains must be finite")) ∧
    (∀ text, read .json text = .ok settings → settings.motorConfig.validate = .ok ()) ∧
    ∀ session, settings.session = some session → settings.OpensSession session := by
  have sound := settings.validate_eq_ok_iff.mp valid
  have motor := motorConfig_validate_of_isValid sound
  refine ⟨motor, ?_, fun session => opensSession_of_isValid sound⟩
  intro text reads
  rw [motor, if_pos (isFinite_of_read_json reads)]

/-- The standard settings with other gains. -/
def withGains (gains : PidGains) : ControllerSettings :=
  { standard with driver := { DriverSettings.standard with pid := gains } }

theorem isValid_standard : standard.IsValid :=
  ⟨by decide +kernel, by decide +kernel, by decide +kernel, by decide, by decide, by decide, nofun⟩

/-- The standard settings are valid with any gains. -/
theorem validate_withGains (gains : PidGains) : (withGains gains).validate = .ok () := by
  have valid := isValid_standard
  exact (validate_eq_ok_iff _).mpr
    ⟨valid.wheelDiameter, valid.encoderSteps, valid.maximumSpeed, valid.maximumSignal, valid.left,
      valid.right, nofun⟩

/-- Settings with an infinite gain are valid, and their motor configuration is not. -/
theorem usable_infinite_gain :
    (withGains ⟨.infinity false, .zero false, .zero false⟩).validate = .ok () ∧
      (withGains ⟨.infinity false, .zero false, .zero false⟩).motorConfig.validate =
        .error (.invalidConfiguration "PID gains must be finite") := by
  have valid := validate_withGains ⟨.infinity false, .zero false, .zero false⟩
  exact ⟨valid, (usable_of_validate valid).1.trans (if_neg (by decide))⟩

end ControllerSettings

end RoverLink
