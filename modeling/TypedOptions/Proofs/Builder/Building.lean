import TypedOptions.Builder
import TypedOptions.Proofs.Outcome

/-!
# The steps of a build

A build opens the record of usage and injects the options of the
configuration itself, first those for files and then those for reports.  It
fails if one of the two does, or if the files cannot be placed.  Only what
these two injections yield tells the configuration from the draft.
-/

namespace TypedOptions

theorem FileConverter.eq_ofOptions_of_create {options : FileOptions} {safe : Bool}
    {fileSystem : FileSystem} {converter : FileConverter}
    (hcreate : create options safe fileSystem = .ok converter) :
    converter = ofOptions options safe fileSystem := by
  cases safe with
  | false =>
      cases hcreate
      rfl
  | true =>
      simp only [create, if_true, bind_eq_ok_iff] at hcreate
      obtain ⟨_, -, _, -, hconverter⟩ := hcreate
      cases hconverter
      rfl

namespace Builder

variable {builder : Builder} {store : Store} {config placed : Configuration}

theorem placeFiles_outcome_eq_ok (hplaced : (placeFiles store config).outcome = .ok placed) :
    let result := (store.inject config FileOptions.declaration .default none).2
    result.error? = none ∧
      placed = { config with
        fileConverter := .ofOptions result.reached.target config.fileConverter.safe
          config.fileSystem } := by
  intro result
  unfold placeFiles at hplaced
  cases herror : (store.inject config FileOptions.declaration .default none).2.error? with
  | some error => simp [herror] at hplaced
  | none =>
      simp only [herror] at hplaced
      obtain ⟨converter, hcreate, rfl⟩ := map_eq_ok_iff.1 hplaced
      rw [FileConverter.eq_ofOptions_of_create hcreate]
      exact ⟨rfl, rfl⟩

theorem setReports_outcome_eq_ok (hplaced : (setReports store config).outcome = .ok placed) :
    let result := (store.inject config ReportOptions.declaration .default none).2
    result.error? = none ∧
      placed = { config with exportsUsed := result.reached.target.exportsUsed } := by
  intro result
  unfold setReports at hplaced
  cases herror : (store.inject config ReportOptions.declaration .default none).2.error? with
  | some error => simp [herror] at hplaced
  | none =>
      simp only [herror] at hplaced
      cases hplaced
      exact ⟨rfl, rfl⟩

theorem registries_openUsage (builder : Builder) (store : Store) :
    (builder.openUsage store).1.registries = store.registries := by
  unfold openUsage
  cases builder.base? <;> rfl

theorem environment_openUsage (builder : Builder) (store : Store) :
    (builder.openUsage store).1.environment = store.environment := by
  unfold openUsage
  cases builder.base? <;> rfl

/-- The configuration that a build starts with, whose record of usage is open. -/
def opened (builder : Builder) (store : Store) : Configuration :=
  builder.draft (builder.openUsage store).1 (builder.openUsage store).2

/-- What a build does with the open configuration before the reports are settled. -/
def firstStep (builder : Builder) (store : Store) : BuildResult :=
  placeFiles (builder.openUsage store).1 (builder.opened store)

theorem registries_firstStep (builder : Builder) (store : Store) :
    (builder.firstStep store).store.registries = store.registries :=
  registries_openUsage builder store

/-- A build whose first step fails ends there. -/
theorem build_of_error {error : OptionError}
    (hplaced : (builder.firstStep store).outcome = .error error) :
    builder.build store = builder.firstStep store := by
  unfold firstStep opened at hplaced ⊢
  simp only [build, hplaced]

theorem build_of_ok (hplaced : (builder.firstStep store).outcome = .ok placed) :
    (builder.build store).outcome = (setReports (builder.firstStep store).store placed).outcome ∧
      (builder.build store).store = (setReports (builder.firstStep store).store placed).store := by
  unfold firstStep opened at hplaced ⊢
  constructor
  · simp only [build, hplaced]
  · simp only [build, hplaced]

theorem exists_of_build_eq_ok (hbuild : (builder.build store).outcome = .ok config) :
    ∃ placed, (builder.firstStep store).outcome = .ok placed ∧
      (setReports (builder.firstStep store).store placed).outcome = .ok config ∧
      (builder.build store).store = (setReports (builder.firstStep store).store placed).store := by
  cases hplaced : (builder.firstStep store).outcome with
  | error error =>
      rw [build_of_error hplaced, hplaced] at hbuild
      cases hbuild
  | ok placed =>
      obtain ⟨houtcome, hstore⟩ := build_of_ok hplaced
      exact ⟨placed, rfl, houtcome ▸ hbuild, hstore⟩

/-- A build changes nothing of the open configuration but the converter for files and whether
used options are reported. -/
theorem config_of_build (hbuild : (builder.build store).outcome = .ok config) :
    config = { builder.opened store with
      fileConverter := config.fileConverter
      exportsUsed := config.exportsUsed } := by
  obtain ⟨placed, hplaced, hreports, -⟩ := exists_of_build_eq_ok hbuild
  have hfirst := (placeFiles_outcome_eq_ok hplaced).2
  have hsecond := (setReports_outcome_eq_ok hreports).2
  rw [hsecond, hfirst]

theorem settings_of_build (hbuild : (builder.build store).outcome = .ok config) :
    config.settings = builder.settings := by
  rw [config_of_build hbuild]
  rfl

theorem usage_of_build (hbuild : (builder.build store).outcome = .ok config) :
    config.usage = (builder.openUsage store).2 := by
  rw [config_of_build hbuild]
  rfl

end Builder

end TypedOptions
