import TypedOptions.Builder
import TypedOptions.Proofs.Outcome

/-!
# Calls of a builder

What a program asks of a builder is a row of calls.  Every call leaves a
builder: the one it was made of if it fails, and an empty one if it is a build
that succeeds.  Each call that succeeds writes some keys: it sets them, or it
clears them.  Most calls count, so that it is too late to start from another
configuration after them; those that do not count change nothing but the
choice of a registry and of files.
-/

namespace TypedOptions

namespace Builder

/-- What can be asked of a builder.  Files are those at the time of the call. -/
inductive Call where
  | set (name value : String)
  | setAll (pairs : List (String × String))
  | addSettings (settings : Settings)
  | clear (name : String)
  | copyFrom (config : Configuration)
  | copySettingFrom (config : Configuration) (name : String)
  | setPrefix (text : String)
  | addConverter (key : ConverterKey) (converter : Converter)
  | withRegistry (id : RegistryId)
  | withFileSystem (fileSystem : FileSystem)
  | loadFile (environment : Environment) (path : Path)
  | loadText (environment : Environment) (content : String) (directory? : Option Path)
      (source : String)
  | loadDefault (environment : Environment) (qualifier application file : String)
  | build (store : Store)

/-- What a call leaves behind, but for what comes out of it if it succeeds. -/
def run (builder : Builder) : Call → CallResult Unit
  | .set name value => .done (builder.set name value)
  | .setAll pairs => .done (builder.setAll pairs)
  | .addSettings settings => .done (builder.addSettings settings)
  | .clear name => .done (builder.clear name)
  | .copyFrom config => builder.copyFrom config
  | .copySettingFrom config name => builder.copySettingFrom config name
  | .setPrefix text => .done (builder.setPrefix text)
  | .addConverter key converter => .done (builder.addConverter key converter)
  | .withRegistry id => .done (builder.withRegistry id)
  | .withFileSystem fileSystem => .done (builder.withFileSystem fileSystem)
  | .loadFile environment path => builder.loadFile environment path
  | .loadText environment content directory? source =>
      builder.loadText environment content directory? source
  | .loadDefault environment qualifier application file =>
      let loaded := builder.loadDefault environment qualifier application file
      ⟨loaded.builder, loaded.events, loaded.outcome.map fun _ => ()⟩
  | .build store =>
      let result := builder.build store
      ⟨builder.afterBuild result, result.events, result.outcome.map fun _ => ()⟩

def perform (builder : Builder) (call : Call) : Builder :=
  (builder.run call).builder

def performAll (builder : Builder) (calls : List Call) : Builder :=
  calls.foldl perform builder

@[simp] theorem performAll_nil (builder : Builder) : builder.performAll [] = builder :=
  rfl

@[simp] theorem performAll_cons (builder : Builder) (call : Call) (rest : List Call) :
    builder.performAll (call :: rest) = (builder.perform call).performAll rest :=
  rfl

/-! ## Calls that add settings -/

def Call.adds : Call → Bool
  | .addSettings _ => true
  | .loadFile .. => true
  | .loadText .. => true
  | .loadDefault .. => true
  | _ => false

/-- The settings that a call adds, as far as they can be read. -/
def added? (builder : Builder) : Call → Option Settings
  | .addSettings settings => some settings
  | .loadFile environment path =>
      (OptionsFile.parseFile (builder.fileSystem environment) path).outcome.toOption
  | .loadText environment content directory? source =>
      (OptionsFile.parse (builder.fileSystem environment) content directory?
        source).outcome.toOption
  | .loadDefault environment qualifier application file =>
      (environment.projectDirectory? qualifier application).bind fun directory =>
        let path := directory.join ⟨file⟩
        ((builder.fileSystem environment).fileType? path).bind fun _ =>
          (OptionsFile.parseFile (builder.fileSystem environment) path).outcome.toOption
  | _ => none

theorem builder_load (builder : Builder) (reading : Reading Settings)
    (announced : Settings → List LogEvent) :
    (builder.load reading announced).builder =
      reading.outcome.toOption.elim builder builder.addSettings := by
  unfold load
  cases reading.outcome <;> rfl

/-- A call that adds settings either adds all that it reads or leaves the builder alone. -/
theorem perform_of_adds {builder : Builder} {call : Call} (hadds : call.adds = true) :
    builder.perform call = (builder.added? call).elim builder builder.addSettings := by
  cases call with
  | addSettings settings => rfl
  | loadFile environment path => exact builder_load ..
  | loadText environment content directory? source => exact builder_load ..
  | loadDefault environment qualifier application file =>
      simp only [perform, run, loadDefault, added?]
      cases environment.projectDirectory? qualifier application with
      | none => rfl
      | some directory =>
          simp only [Option.bind_some]
          cases (builder.fileSystem environment).fileType? (directory.join ⟨file⟩) with
          | none => rfl
          | some type => exact builder_load ..
  | _ => cases hadds

/-- Reading that fails adds nothing. -/
theorem toOption_of_load_eq_error {builder : Builder} {reading : Reading Settings}
    {announced : Settings → List LogEvent} {error : OptionError}
    (herror : (builder.load reading announced).outcome = .error error) :
    reading.outcome.toOption = none := by
  unfold load at herror
  cases houtcome : reading.outcome with
  | error cause => rfl
  | ok settings =>
      rw [houtcome] at herror
      cases herror

theorem added?_of_error {builder : Builder} {call : Call} {error : OptionError}
    (hadds : call.adds = true) (herror : (builder.run call).outcome = .error error) :
    builder.added? call = none := by
  cases call with
  | addSettings settings => cases herror
  | loadFile environment path => exact toOption_of_load_eq_error herror
  | loadText environment content directory? source => exact toOption_of_load_eq_error herror
  | loadDefault environment qualifier application file =>
      have hload := map_eq_error_iff.1 herror
      simp only [loadDefault] at hload
      simp only [added?]
      cases hdirectory : environment.projectDirectory? qualifier application with
      | none => rfl
      | some directory =>
          rw [hdirectory] at hload
          rw [Option.bind_some]
          cases htype : (builder.fileSystem environment).fileType? (directory.join ⟨file⟩) with
          | none => rfl
          | some type =>
              simp only [htype] at hload
              exact toOption_of_load_eq_error (map_eq_error_iff.1 hload)
  | _ => cases hadds

/-! ## Calls that fail -/

/-- A call that fails leaves the builder as it was. -/
theorem perform_of_error {builder : Builder} {call : Call} {error : OptionError}
    (herror : (builder.run call).outcome = .error error) : builder.perform call = builder := by
  cases call with
  | copyFrom config =>
      simp only [perform, run, copyFrom] at herror ⊢
      cases hmodified : builder.isModified with
      | true => rfl
      | false =>
          rw [hmodified] at herror
          cases herror
  | copySettingFrom config name =>
      simp only [perform, run, copySettingFrom] at herror ⊢
      cases hsetting : config.settings[name]? with
      | none => rfl
      | some setting =>
          rw [hsetting] at herror
          cases herror
  | loadFile | loadText | loadDefault =>
      rw [perform_of_adds rfl, added?_of_error rfl herror]
      rfl
  | build store =>
      have hbuild : (builder.build store).outcome = .error error := map_eq_error_iff.1 herror
      simp only [perform, run, afterBuild, hbuild]
  | _ => cases herror

/-! ## The settings after a call -/

/-- What a call makes of the settings, the rest of the builder apart. -/
def settingsAfter (builder : Builder) (call : Call) : Settings :=
  match call with
  | .set name value => builder.settings.insert name ⟨value, .manual⟩
  | .setAll pairs =>
      pairs.foldl (fun settings (name, value) => settings.insert name ⟨value, .manual⟩)
        builder.settings
  | .clear name => builder.settings.erase name
  | .copyFrom config => if builder.isModified then builder.settings else config.settings
  | .copySettingFrom config name =>
      config.settings[name]?.elim builder.settings (builder.settings.insert name)
  | .build store => (builder.build store).outcome.toOption.elim builder.settings fun _ => ∅
  | call => (builder.added? call).elim builder.settings builder.settings.extend

theorem settings_setAll (builder : Builder) (pairs : List (String × String)) :
    (builder.setAll pairs).settings =
      pairs.foldl (fun settings (name, value) => settings.insert name ⟨value, .manual⟩)
        builder.settings := by
  unfold setAll
  induction pairs generalizing builder with
  | nil => rfl
  | cons pair rest ih => exact ih (builder.set pair.1 pair.2)

theorem settings_perform_of_adds {builder : Builder} {call : Call} (hadds : call.adds = true) :
    (builder.perform call).settings =
      (builder.added? call).elim builder.settings builder.settings.extend := by
  rw [perform_of_adds hadds]
  cases builder.added? call <;> rfl

theorem settings_perform (builder : Builder) (call : Call) :
    (builder.perform call).settings = builder.settingsAfter call := by
  cases call with
  | set name value => rfl
  | setAll pairs => exact settings_setAll builder pairs
  | clear name => rfl
  | copyFrom config =>
      simp only [perform, run, copyFrom, settingsAfter]
      cases builder.isModified <;> rfl
  | copySettingFrom config name =>
      simp only [perform, run, copySettingFrom, settingsAfter]
      cases config.settings[name]? <;> rfl
  | build store =>
      simp only [perform, run, afterBuild, settingsAfter]
      cases (builder.build store).outcome <;> rfl
  | addSettings settings => exact settings_perform_of_adds rfl
  | loadFile environment path => exact settings_perform_of_adds rfl
  | loadText environment content directory? source => exact settings_perform_of_adds rfl
  | loadDefault environment qualifier application file => exact settings_perform_of_adds rfl
  | setPrefix text => rfl
  | addConverter key converter => rfl
  | withRegistry id => rfl
  | withFileSystem fileSystem => rfl

/-! ## Calls that count -/

/-- Calls after which it is too late to start from another configuration.  To choose a registry or
the files does not count. -/
def Marks (builder : Builder) (call : Call) : Prop :=
  match call with
  | .setAll pairs => pairs ≠ []
  | .copySettingFrom config name => name ∈ config.settings
  | .withRegistry _ => False
  | .withFileSystem _ => False
  | .build _ => False
  | .loadFile .. => (builder.added? call).isSome
  | .loadText .. => (builder.added? call).isSome
  | .loadDefault .. => (builder.added? call).isSome
  | _ => True

/-- The builder with the registry and the files that were chosen for another. -/
def withChoicesOf (builder other : Builder) : Builder :=
  { builder with
    registry? := other.registry?
    fileSystem? := other.fileSystem? }

def Finishes (builder : Builder) (call : Call) : Prop :=
  ∃ store config, call = .build store ∧ (builder.build store).outcome = .ok config

section Marks

variable {builder : Builder} {call : Call}

theorem isModified_setAll (pairs : List (String × String))
    (hmodified : builder.isModified = true) : (builder.setAll pairs).isModified = true := by
  unfold setAll
  induction pairs generalizing builder with
  | nil => exact hmodified
  | cons pair rest ih => exact ih rfl

theorem isModified_perform_of_added (hadds : call.adds = true)
    (hadded : (builder.added? call).isSome) : (builder.perform call).isModified = true := by
  obtain ⟨settings, hsettings⟩ := Option.isSome_iff_exists.1 hadded
  rw [perform_of_adds hadds, hsettings]
  rfl

theorem isModified_perform_of_marks (hmarks : builder.Marks call) :
    (builder.perform call).isModified = true := by
  cases call with
  | set name value => rfl
  | setAll pairs =>
      cases pairs with
      | nil => exact absurd rfl hmarks
      | cons pair rest => exact isModified_setAll rest rfl
  | addSettings settings => rfl
  | clear name => rfl
  | copyFrom config =>
      cases hmodified : builder.isModified with
      | false => simp [perform, run, copyFrom, hmodified]
      | true => simp [perform, run, copyFrom, hmodified]
  | copySettingFrom config name =>
      obtain ⟨setting, hsetting⟩ :=
        Option.isSome_iff_exists.1 ((Settings.isSome_getElem? _ _).2 hmarks)
      simp [perform, run, copySettingFrom, hsetting]
  | setPrefix text => rfl
  | addConverter key converter => rfl
  | withRegistry id => exact hmarks.elim
  | withFileSystem fileSystem => exact hmarks.elim
  | loadFile environment path => exact isModified_perform_of_added rfl hmarks
  | loadText environment content directory? source =>
      exact isModified_perform_of_added rfl hmarks
  | loadDefault environment qualifier application file => exact isModified_perform_of_added rfl hmarks
  | build store => exact hmarks.elim

theorem perform_of_finishes (hfinishes : builder.Finishes call) :
    builder.perform call = empty := by
  obtain ⟨store, config, rfl, hbuild⟩ := hfinishes
  simp only [perform, run, afterBuild, hbuild]

theorem perform_of_not_added (hadds : call.adds = true)
    (hadded : ¬(builder.added? call).isSome) : builder.perform call = builder := by
  rw [perform_of_adds hadds, Option.not_isSome_iff_eq_none.1 hadded]
  rfl

/-- A call that does not count changes the registry and the files at most. -/
theorem perform_of_not_marks (hmarks : ¬builder.Marks call) (hgoesOn : ¬builder.Finishes call) :
    builder.perform call = builder.withChoicesOf (builder.perform call) := by
  have hsame (hperform : builder.perform call = builder) :
      builder.perform call = builder.withChoicesOf (builder.perform call) := by
    rw [hperform]
    rfl
  cases call with
  | set name value => exact absurd trivial hmarks
  | setAll pairs =>
      cases pairs with
      | nil => rfl
      | cons pair rest => exact absurd (List.cons_ne_nil _ _) hmarks
  | addSettings settings => exact absurd trivial hmarks
  | clear name => exact absurd trivial hmarks
  | copyFrom config => exact absurd trivial hmarks
  | copySettingFrom config name =>
      have hnone : config.settings[name]? = none := by
        simpa [Marks] using hmarks
      exact hsame (by simp [perform, run, copySettingFrom, hnone])
  | setPrefix text => exact absurd trivial hmarks
  | addConverter key converter => exact absurd trivial hmarks
  | withRegistry id => rfl
  | withFileSystem fileSystem => rfl
  | loadFile environment path => exact hsame (perform_of_not_added rfl hmarks)
  | loadText environment content directory? source =>
      exact hsame (perform_of_not_added rfl hmarks)
  | loadDefault environment qualifier application file => exact hsame (perform_of_not_added rfl hmarks)
  | build store =>
      cases hbuild : (builder.build store).outcome with
      | error error =>
          have herror : (builder.run (.build store)).outcome = .error error :=
            map_eq_error_iff.2 hbuild
          exact hsame (perform_of_error herror)
      | ok config => exact absurd ⟨store, config, rfl, hbuild⟩ hgoesOn

theorem isModified_perform_iff :
    (builder.perform call).isModified = true ↔
      builder.Marks call ∨ builder.isModified = true ∧ ¬builder.Finishes call := by
  by_cases hmarks : builder.Marks call
  · simp [hmarks, isModified_perform_of_marks]
  · by_cases hfinishes : builder.Finishes call
    · rw [perform_of_finishes hfinishes]
      simp [hmarks, hfinishes, empty]
    · rw [perform_of_not_marks hmarks hfinishes]
      simp [hmarks, hfinishes, withChoicesOf]

/-- What holds of the empty builder, whatever its registry and files, holds of every builder that
is not modified. -/
theorem perform_of_not_isModified {motive : Builder → Prop} (hempty : motive empty)
    (hchoices : ∀ other, motive builder → motive (builder.withChoicesOf other))
    (hbuilder : builder.isModified = false → motive builder)
    (hunmodified : (builder.perform call).isModified = false) :
    motive (builder.perform call) := by
  have hmarks : ¬builder.Marks call := by
    intro hmarks
    rw [isModified_perform_of_marks hmarks] at hunmodified
    cases hunmodified
  by_cases hfinishes : builder.Finishes call
  · rw [perform_of_finishes hfinishes]
    exact hempty
  · rw [perform_of_not_marks hmarks hfinishes] at hunmodified ⊢
    exact hchoices _ (hbuilder hunmodified)

end Marks

/-! ## Builders that hold nothing yet -/

/-- Only a builder that holds nothing may start from another configuration. -/
def Fresh (builder : Builder) : Prop :=
  builder.isModified = false → builder.settings = ∅

theorem fresh_perform {builder : Builder} (hfresh : builder.Fresh) (call : Call) :
    (builder.perform call).Fresh :=
  perform_of_not_isModified (motive := fun builder => builder.settings = ∅) rfl
    (fun _ hsettings => hsettings) hfresh

theorem fresh_empty : empty.Fresh :=
  fun _ => rfl

end Builder

end TypedOptions
