import RoverLink.Proofs.Settings.Form
import RoverLink.Proofs.Settings.Usable
import RoverLink.Proofs.Text.Utf8

/-!
# Settings that are saved and loaded again

Settings that the system has taken are loaded with the same values exactly if
the format of the file keeps all of their numbers (`isReloaded_iff`): TOML keeps
what is a number, finite or not, and JSON keeps no more than finite numbers.
The validation passes over the gains, so gains that a file does not keep are
saved all the same.

That numbers are printed and read exactly is proved for TOML.  The reader of
JSON may miss a finite number by its last digit, so for JSON it is assumed of
the numbers at hand (`DataFormat.IsExact`).
-/

namespace RoverLink

open Decimal

namespace DataFormat

/-- Whether a format has a form for the value of a number. -/
def Keeps : DataFormat → Binary64 → Prop
  | .json, number => number.isFinite = true
  | .toml, number => number.view ≠ .notANumber

/-- Whether a number has the same value when what was written for it is read. -/
def ReadsBack (format : DataFormat) (number : Binary64) : Prop :=
  ∃ again, format.rereadReal? number = some again ∧ number.sameValue again = true

/-- Whether a format prints and reads exactly those of the numbers that it has a form for. -/
def IsExact (format : DataFormat) (numbers : List Binary64) : Prop :=
  ∀ number ∈ numbers, format.Keeps number → format.ReadsBack number

theorem readsBack_toml_iff (number : Binary64) :
    DataFormat.toml.ReadsBack number ↔ DataFormat.toml.Keeps number := by
  have same : DataFormat.toml.rereadReal? number = some (Toml.rereadReal number) := rfl
  simp only [ReadsBack, same, Keeps, Option.some.injEq, exists_eq_left']
  cases view : number.view with
  | notANumber => simp [Toml.rereadReal, Binary64.sameValue, view]
  | infinite negative => simp [Toml.rereadReal, Binary64.sameValue, view]
  | finite negative units =>
    cases units <;> simp [Toml.rereadReal, Binary64.sameValue, view]

theorem isExact_toml (numbers : List Binary64) : DataFormat.toml.IsExact numbers :=
  fun number _ => (readsBack_toml_iff number).mpr

/-- JSON is exact for numbers that can be printed and read one by one. -/
theorem isExact_json_of_reads
    {numbers : List Binary64}
    (reads : ∀ number ∈ numbers,
      number.isFinite = true → (Json.rereadReal? number).any number.sameValue = true) :
    DataFormat.json.IsExact numbers :=
  fun number member finite => (Option.any_eq_true _ _).mp (reads number member finite)

/-- What is read back has a form in the format. -/
theorem Keeps.of_readsBack
    {format : DataFormat}
    {number : Binary64}
    (readsBack : format.ReadsBack number) :
    format.Keeps number := by
  cases format with
  | json =>
    rcases readsBack with ⟨again, reads, _⟩
    change Json.rereadReal? number = some again at reads
    by_contra infinite
    rw [Json.rereadReal?_of_isFinite_eq_false (by simpa [Keeps] using infinite)] at reads
    cases reads
  | toml => exact (readsBack_toml_iff number).mp readsBack

/-- The numbers are read back exactly if the format has a form for each of them. -/
theorem IsExact.forall_readsBack_iff
    {format : DataFormat}
    {numbers : List Binary64}
    (exact : format.IsExact numbers) :
    (∀ number ∈ numbers, format.ReadsBack number) ↔ ∀ number ∈ numbers, format.Keeps number :=
  forall₂_congr fun number member => ⟨.of_readsBack, exact number member⟩

end DataFormat

namespace ControllerSettings

/-- The numbers of settings. -/
def numbers (settings : ControllerSettings) : List Binary64 :=
  [settings.rover.wheelDiameter, settings.rover.encoderSteps, settings.rover.maximumSpeed,
    settings.driver.pid.proportional, settings.driver.pid.integral, settings.driver.pid.derivative]

/-- Settings have the same values if each number has the same value. -/
theorem exists_mapNumbers?_sameValues (settings : ControllerSettings) (format : DataFormat) :
    (∃ again, settings.mapNumbers? format.rereadReal? = some again ∧
      settings.sameValues again = true) ↔
      ∀ number ∈ settings.numbers, format.ReadsBack number := by
  constructor
  · rintro ⟨again, maps, same⟩
    simp only [mapNumbers?, RoverSettings.mapNumbers?, PidGains.mapNumbers?, Option.bind_eq_bind,
      Option.bind_eq_some_iff, Option.pure_def, Option.some.injEq] at maps
    rcases maps with ⟨_, ⟨diameter, ofDiameter, steps, ofSteps, speed, ofSpeed, rfl⟩, _,
      ⟨proportional, ofProportional, integral, ofIntegral, derivative, ofDerivative, rfl⟩, rfl⟩
    simp only [sameValues, sameGains, Bool.and_eq_true] at same
    rcases same with ⟨⟨⟨⟨⟨⟨⟨sameDiameter, sameSteps⟩, sameSpeed⟩, _⟩, _⟩,
      ⟨sameProportional, sameIntegral⟩, sameDerivative⟩, _⟩, _⟩
    simp only [numbers, List.forall_mem_cons]
    exact ⟨⟨diameter, ofDiameter, sameDiameter⟩, ⟨steps, ofSteps, sameSteps⟩,
      ⟨speed, ofSpeed, sameSpeed⟩, ⟨proportional, ofProportional, sameProportional⟩,
      ⟨integral, ofIntegral, sameIntegral⟩, ⟨derivative, ofDerivative, sameDerivative⟩,
      List.forall_mem_nil _⟩
  · simp only [numbers, List.forall_mem_cons]
    rintro ⟨⟨diameter, ofDiameter, sameDiameter⟩, ⟨steps, ofSteps, sameSteps⟩,
      ⟨speed, ofSpeed, sameSpeed⟩, ⟨proportional, ofProportional, sameProportional⟩,
      ⟨integral, ofIntegral, sameIntegral⟩, ⟨derivative, ofDerivative, sameDerivative⟩, _⟩
    refine ⟨⟨⟨diameter, steps, speed⟩,
      { settings.driver with pid := ⟨proportional, integral, derivative⟩ },
      settings.session⟩, ?_, ?_⟩
    · simp [mapNumbers?, RoverSettings.mapNumbers?, PidGains.mapNumbers?, ofDiameter, ofSteps,
        ofSpeed, ofProportional, ofIntegral, ofDerivative]
    · simp [sameValues, sameGains, sameDiameter, sameSteps, sameSpeed, sameProportional,
        sameIntegral, sameDerivative]

theorem isMeasure_of_sameValue
    {number again : Binary64}
    (measure : MotorConfig.isMeasure number = true)
    (same : number.sameValue again = true) :
    MotorConfig.isMeasure again = true := by
  simp only [MotorConfig.isMeasure, Bool.and_eq_true] at measure ⊢
  rcases measure with ⟨finite, positive⟩
  rcases number.isFinite_iff.mp finite with ⟨negative, units, view⟩
  have sameView : again.view = number.view := by
    rw [Binary64.isPositive, view] at positive
    rw [Binary64.sameValue, view] at same
    rw [view]
    cases units with
    | zero => simp at positive
    | succ units =>
      cases other : again.view <;> simp_all
  refine ⟨again.isFinite_iff.mpr ⟨negative, units, sameView.trans view⟩, ?_⟩
  rwa [Binary64.isPositive, sameView, ← Binary64.isPositive]

/-- Settings with the same values are valid together. -/
theorem isValid_of_sameValues
    {settings again : ControllerSettings}
    (valid : settings.IsValid)
    (same : settings.sameValues again = true) :
    again.IsValid := by
  simp only [sameValues, Bool.and_eq_true, beq_iff_eq] at same
  rcases same with ⟨⟨⟨⟨⟨⟨⟨diameter, steps⟩, speed⟩, signal⟩, _⟩, _⟩, directions⟩, session⟩
  exact {
    wheelDiameter := isMeasure_of_sameValue valid.wheelDiameter diameter
    encoderSteps := isMeasure_of_sameValue valid.encoderSteps steps
    maximumSpeed := isMeasure_of_sameValue valid.maximumSpeed speed
    maximumSignal := signal ▸ valid.maximumSignal
    left := directions ▸ valid.left
    right := directions ▸ valid.right
    session := session ▸ valid.session }

/-- Settings that were written are read with what is read for their numbers. -/
theorem read_eq_ok_iff
    {format : DataFormat}
    {settings again : ControllerSettings}
    (sized : ∀ session, settings.session = some session → session.IsSized)
    {text : List Char}
    (writes : settings.write format = .ok text) :
    read format text = .ok again ↔ settings.mapNumbers? format.rereadReal? = some again := by
  have document := ofDocument?_reread format sized
  cases format with
  | json =>
    cases writes
    have reads : (Json.read? (Json.pretty (DocumentForm.toDocument settings))).bind
        (DocumentForm.ofDocument? .json) = settings.mapNumbers? DataFormat.json.rereadReal? := by
      rw [Json.read?_pretty]
      exact document
    simp only [read, reads]
    cases settings.mapNumbers? DataFormat.json.rereadReal? <;> simp
  | toml =>
    have ofText : Toml.write (DocumentForm.toDocument settings) = .ok text := by
      rw [write] at writes
      split at writes
      next found => rwa [Except.ok.inj writes] at found
      next => cases writes
      next => cases writes
    have reads : (Toml.read? text).bind (DocumentForm.ofDocument? .toml) =
        settings.mapNumbers? DataFormat.toml.rereadReal? := by
      rw [Toml.read?_write rfl settings.isTabular settings.depth_toDocument_le ofText]
      exact document
    simp only [read, reads]
    cases settings.mapNumbers? DataFormat.toml.rereadReal? <;> simp

/--
Whether settings have the same values when they are loaded from a file in which
the system finds a text.
-/
def IsReloaded (settings : ControllerSettings) (path text : List Char) : Prop :=
  ∃ again, load path (.ok (Text.Utf8.encode text)) = .ok again ∧ settings.sameValues again = true

/-- The system was asked about a path, and answered. -/
theorem asked_eq_ok_iff
    {Answer : Type}
    {path : List Char}
    {answer : Except SystemFault Answer}
    {value : Answer} :
    asked path answer = .ok value ↔ '\x00' ∉ path ∧ answer = .ok value := by
  rw [asked]
  split
  next zero => simp [List.contains_iff_mem.mp zero]
  next noZero => cases answer <;> simp_all [Except.mapError]

/-- What was saved is written in the format of its path, and the system can be asked about it. -/
theorem exists_format_of_save
    {settings : ControllerSettings}
    {path text : List Char}
    {written : Except SystemFault Unit}
    (saves : settings.save path written = .ok text) :
    settings.IsValid ∧ '\x00' ∉ path ∧
      ∃ format, formatOf path = .ok format ∧ settings.write format = .ok text := by
  rw [save] at saves
  split at saves
  next => cases saves
  next valid =>
    split at saves
    next => cases saves
    next format ofPath =>
      split at saves
      next => cases saves
      next writes =>
        split at saves
        next => cases saves
        next answered =>
          cases saves
          exact ⟨(validate_eq_ok_iff settings).mp valid, (asked_eq_ok_iff.mp answered).1,
            format, ofPath, writes⟩

theorem checked_eq_ok_iff (settings again : ControllerSettings) :
    settings.checked = .ok again ↔ settings = again ∧ settings.IsValid := by
  rw [checked, ← validate_eq_ok_iff]
  split
  next valid => simp [valid]
  next error invalid => simp [invalid]

theorem load_eq_ok_iff
    {path text : List Char}
    {format : DataFormat}
    (noZero : '\x00' ∉ path)
    (ofPath : formatOf path = .ok format)
    (settings : ControllerSettings) :
    load path (.ok (Text.Utf8.encode text)) = .ok settings ↔
      read format text = .ok settings ∧ settings.IsValid := by
  have answered : asked path (.ok (Text.Utf8.encode text)) = .ok (Text.Utf8.encode text) :=
    asked_eq_ok_iff.mpr ⟨noZero, rfl⟩
  simp only [load, answered, Text.Utf8.decode?_encode, ofPath]
  split
  next error failed => simp [failed]
  next again reads =>
    rw [checked_eq_ok_iff, reads, Except.ok.injEq]
    exact and_congr_right fun same => by rw [same]

/--
Settings that were saved have the same values when they are loaded again,
exactly if the format of their file keeps the value of each of their numbers.
-/
theorem isReloaded_iff
    {settings : ControllerSettings}
    (sized : ∀ session, settings.session = some session → session.IsSized)
    {path text : List Char}
    (exact : formatOf path = .ok .json → DataFormat.json.IsExact settings.numbers)
    {written : Except SystemFault Unit}
    (saves : settings.save path written = .ok text) :
    ∃ format, formatOf path = .ok format ∧
      (settings.IsReloaded path text ↔ ∀ number ∈ settings.numbers, format.Keeps number) := by
  rcases exists_format_of_save saves with ⟨valid, noZero, format, ofPath, writes⟩
  refine ⟨format, ofPath, ?_⟩
  have exact : format.IsExact settings.numbers := by
    cases format with
    | json => exact exact ofPath
    | toml => exact DataFormat.isExact_toml _
  simp only [← exact.forall_readsBack_iff, ← exists_mapNumbers?_sameValues, IsReloaded,
    load_eq_ok_iff noZero ofPath, read_eq_ok_iff sized writes]
  constructor
  · rintro ⟨again, ⟨maps, _⟩, same⟩
    exact ⟨again, maps, same⟩
  · rintro ⟨again, maps, same⟩
    exact ⟨again, ⟨maps, isValid_of_sameValues valid same⟩, same⟩

/-- The standard settings with an infinite gain. -/
def withInfiniteGain : ControllerSettings :=
  withGains ⟨.infinity false, .zero false, .zero false⟩

/-- Settings with finite gains are loaded again, but only one format keeps infinite gains. -/
theorem isReloaded_infinite_gain :
    (∃ text, (withGains .zero).save "/home/rover/s.json".toList (.ok ()) = .ok text ∧
      (withGains .zero).IsReloaded "/home/rover/s.json".toList text) ∧
    (∃ text, withInfiniteGain.save "/home/rover/s.json".toList (.ok ()) = .ok text ∧
      ¬withInfiniteGain.IsReloaded "/home/rover/s.json".toList text) ∧
    ∃ text, withInfiniteGain.save "config/rover.TOML".toList (.ok ()) = .ok text ∧
      withInfiniteGain.IsReloaded "config/rover.TOML".toList text := by
  have valid : ∀ gains, (withGains gains).validate = .ok () := validate_withGains
  have sized : ∀ gains session, (withGains gains).session = some session → session.IsSized := by
    rintro gains session ⟨⟩
  have finite : DataFormat.json.IsExact (withGains .zero).numbers :=
    DataFormat.isExact_json_of_reads (by decide +kernel)
  have infinite : DataFormat.json.IsExact withInfiniteGain.numbers :=
    DataFormat.isExact_json_of_reads (by decide +kernel)
  have savesJson : ∀ gains, ∃ text,
      (withGains gains).save "/home/rover/s.json".toList (.ok ()) = .ok text := by
    intro gains
    rw [save, valid]
    exact ⟨_, rfl⟩
  have savesToml : ∃ text,
      withInfiniteGain.save "config/rover.TOML".toList (.ok ()) = .ok text := by
    rw [save, withInfiniteGain, valid]
    exact ⟨_, rfl⟩
  refine ⟨?finite, ?json, ?toml⟩
  case finite =>
    rcases savesJson .zero with ⟨text, saves⟩
    rcases isReloaded_iff (sized _) (fun _ => finite) saves with ⟨format, ofPath, reloaded⟩
    cases ofPath
    have keeps : ∀ number ∈ (withGains .zero).numbers, number.isFinite = true := by
      decide +kernel
    exact ⟨text, saves, reloaded.mpr keeps⟩
  case json =>
    rcases savesJson _ with ⟨text, saves⟩
    rcases isReloaded_iff (sized _) (fun _ => infinite) saves with ⟨format, ofPath, reloaded⟩
    cases ofPath
    refine ⟨text, saves, fun again => ?_⟩
    have keeps : (Binary64.infinity false).isFinite = true :=
      reloaded.mp again (.infinity false) (by simp [numbers, withGains])
    exact absurd keeps (by decide)
  case toml =>
    rcases savesToml with ⟨text, saves⟩
    rcases isReloaded_iff (sized _) (fun _ => infinite) saves with ⟨format, ofPath, reloaded⟩
    cases ofPath
    have keeps : ∀ number ∈ withInfiniteGain.numbers, number.view ≠ .notANumber := by
      decide +kernel
    exact ⟨text, saves, reloaded.mpr keeps⟩

end ControllerSettings

end RoverLink
