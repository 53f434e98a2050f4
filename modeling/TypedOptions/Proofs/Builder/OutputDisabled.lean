import TypedOptions.Proofs.Builder.Building
import TypedOptions.Proofs.Injection.Resemblance

/-!
# Builds with output disabled

Two builders that differ in nothing but whether output is disabled build
configurations that differ in nothing else, since the other options of
configurations themselves are read under other keys.  Injections then leave
the same contents in all fields but those of unset options for output.
-/

namespace TypedOptions

variable {τ : Type}

/-! ## Own options -/

theorem FileOptions.pairwise_independent :
    FileOptions.declaration.options.Pairwise OptionDeclaration.Independent := by
  have hpath : outputPathOption.Independent outputDisabledOption :=
    OptionDeclaration.independent_of_access rfl rfl (fun _ _ => rfl) (fun _ _ => rfl)
      fun _ _ _ => rfl
  have hroot : outputPathOption.Independent rootDirectoryOption :=
    OptionDeclaration.independent_of_access rfl rfl (fun _ _ => rfl) (fun _ _ => rfl)
      fun _ _ _ => rfl
  have hdisabled : outputDisabledOption.Independent rootDirectoryOption :=
    OptionDeclaration.independent_of_access rfl rfl (fun _ _ => rfl) (fun _ _ => rfl)
      fun _ _ _ => rfl
  simp [declaration, hpath, hroot, hdisabled]

theorem ReportOptions.pairwise_independent :
    ReportOptions.declaration.options.Pairwise OptionDeclaration.Independent :=
  List.pairwise_singleton _ _

/-! ## Keys -/

theorem getLast?_toList_append (lead : String) {name : String} (hname : name.toList ≠ []) :
    (lead ++ name).toList.getLast? = name.toList.getLast? := by
  rw [String.toList_append, List.getLast?_append_of_ne_nil _ hname]

namespace Configuration

theorem getLast?_of_mem_keys {config : Configuration} {name key : String}
    (hname : name.toList ≠ []) (hkey : key ∈ config.keys name) :
    key.toList.getLast? = name.toList.getLast? := by
  unfold keys at hkey
  split at hkey
  · rw [List.mem_singleton.1 hkey]
  · rcases List.mem_pair.1 hkey with rfl | rfl
    · exact getLast?_toList_append _ hname
    · rfl

/-- The keys that tell whether output is disabled, with and without a prefix. -/
def outputKeys (lead : String) : List String :=
  [lead ++ "output.disable", "output.disable"]

theorem getLast?_of_mem_outputKeys {lead key : String} (hkey : key ∈ outputKeys lead) :
    key.toList.getLast? = some 'e' := by
  rcases List.mem_pair.1 hkey with rfl | rfl
  · exact getLast?_toList_append lead (by decide)
  · decide

/-- An option without former names is not read under these keys if its name ends otherwise. -/
theorem not_mem_outputKeys {config : Configuration} {declaration : Declaration τ}
    {option : OptionDeclaration τ} (hformer : declaration.deprecatedScope? = none)
    (hname : (declaration.nameOf option).toList ≠ [])
    (hlast : (declaration.nameOf option).toList.getLast? ≠ some 'e') (lead : String) :
    ∀ key ∈ (config.finding declaration option).probed, key ∉ outputKeys lead := by
  intro key hprobed hkey
  obtain ⟨name, hlookup, hprobe⟩ := mem_probed_iff.1 hprobed
  have hown : name = declaration.nameOf option := by
    simpa [Declaration.lookupNames, hformer] using hlookup
  subst hown
  apply hlast
  rw [← getLast?_of_mem_keys hname (Settings.probes_subset _ _ hprobe),
    getLast?_of_mem_outputKeys hkey]

/-- An option without an annotation has the same content after injections of both. -/
theorem Resembles.get_inject {keys : List String} {first second : Configuration}
    (hresembles : first.Resembles keys second) {store other : Store}
    (hregistries : other.registries = store.registries) {declaration : Declaration τ}
    (hindependent : declaration.options.Pairwise OptionDeclaration.Independent)
    {option : OptionDeclaration τ} (hoption : option ∈ declaration.options)
    (hplain : option.annotations = [])
    (hunread : ∀ key ∈ (first.finding declaration option).probed, key ∉ keys)
    {get : τ → option.type.Carrier} (hfield : option.IsField get) {target : τ}
    (hok : (store.inject first declaration target none).2.error? = none)
    (hother : (other.inject second declaration target none).2.error? = none) :
    get (other.inject second declaration target none).2.reached.target =
      get (store.inject first declaration target none).2.reached.target := by
  have hsame := hresembles.sameFor store.registries hplain hunread
  have hgiven : store.registries = (⟨first, store.registries⟩ : Surroundings).registries := rfl
  exact (hsame.get_inject hgiven hregistries hindependent hoption hfield hok hother :)

end Configuration

/-! ## Builds -/

namespace Builder

/-- The builders have the same settings but for some keys.  Only what counts as used may depend
on where they come from. -/
structure DiffersAt (keys : List String) (first second : Builder) : Prop where
  settings_eq : ∀ key, key ∉ keys → second.settings.found? key = first.settings.found? key
  rest : second = { first with
    settings := second.settings
    base? := second.base?
    isModified := second.isModified }

section Pair

variable {keys : List String} {first second : Builder} {store other : Store}
  (hdiffers : first.DiffersAt keys second) (hregistries : other.registries = store.registries)
  (henvironment : other.environment = store.environment)
include hdiffers hregistries henvironment

theorem resembles_opened :
    (first.opened store).Resembles keys (second.opened other) ∧
      (second.opened other).fileConverter = (first.opened store).fileConverter := by
  have hlead : second.keyPrefix = first.keyPrefix := congrArg (·.keyPrefix) hdiffers.rest
  have hoverrides : second.overrides = first.overrides := congrArg (·.overrides) hdiffers.rest
  have hregistry : second.registry? = first.registry? :=
    congrArg (fun builder => builder.registry?) hdiffers.rest
  have hfiles : second.fileSystem? = first.fileSystem? := congrArg (·.fileSystem?) hdiffers.rest
  have hfileSystem : second.fileSystem (second.openUsage other).1.environment =
      first.fileSystem (first.openUsage store).1.environment := by
    rw [environment_openUsage, environment_openUsage, henvironment, fileSystem, fileSystem, hfiles]
  have hstores : (second.openUsage other).1.registries = (first.openUsage store).1.registries := by
    rw [registries_openUsage, registries_openUsage, hregistries]
  unfold opened draft Configuration.empty Store.registry
  refine ⟨⟨hdiffers.settings_eq, ?_⟩, ?_⟩
  · simp only [hlead, hoverrides, hregistry, hfileSystem]
  · simp only [hregistry, hfileSystem, hstores]

end Pair

section Build

variable {lead : String} {first second : Builder} {store other : Store}
  {placed placed' enabled disabled : Configuration}
  (hdiffers : first.DiffersAt (Configuration.outputKeys lead) second)
  (hregistries : other.registries = store.registries)
  (henvironment : other.environment = store.environment)
include hdiffers hregistries henvironment

/-- The directories are read under other keys. -/
theorem resembles_of_firstStep (hplaced : (first.firstStep store).outcome = .ok placed)
    (hplaced' : (second.firstStep other).outcome = .ok placed') :
    placed.Resembles (Configuration.outputKeys lead) placed' ∧
      placed'.fileConverter = { placed.fileConverter with
        outputDisabled := placed'.fileConverter.outputDisabled } := by
  obtain ⟨hopened, hfiles⟩ := resembles_opened hdiffers hregistries henvironment
  obtain ⟨hok, hplaced⟩ := placeFiles_outcome_eq_ok hplaced
  obtain ⟨hok', hplaced'⟩ := placeFiles_outcome_eq_ok hplaced'
  have hstores : (second.openUsage other).1.registries = (first.openUsage store).1.registries := by
    rw [registries_openUsage, registries_openUsage, hregistries]
  have hfileSystem : (second.opened other).fileSystem = (first.opened store).fileSystem :=
    congrArg (·.fileSystem) hopened.rest
  have hpathOption : FileOptions.outputPathOption ∈ FileOptions.declaration.options := by
    simp [FileOptions.declaration]
  have hpath := hopened.get_inject hstores FileOptions.pairwise_independent hpathOption rfl
    (Configuration.not_mem_outputKeys rfl (by decide) (by decide) lead) ⟨_, rfl, fun _ _ => rfl⟩
    hok hok'
  have hrootOption : FileOptions.rootDirectoryOption ∈ FileOptions.declaration.options := by
    simp [FileOptions.declaration]
  have hroot := hopened.get_inject hstores FileOptions.pairwise_independent hrootOption rfl
    (Configuration.not_mem_outputKeys rfl (by decide) (by decide) lead) ⟨_, rfl, fun _ _ => rfl⟩
    hok hok'
  rw [hplaced, hplaced']
  refine ⟨hopened.withFiles _ _, ?_⟩
  unfold FileConverter.ofOptions
  rw [hroot, hpath, hfileSystem, hfiles]

theorem disablesOutput_of_builds (hfirst : (first.build store).outcome = .ok enabled)
    (hsecond : (second.build other).outcome = .ok disabled)
    (henabled : enabled.fileConverter.outputDisabled = false)
    (hdisabled : disabled.fileConverter.outputDisabled = true) :
    enabled.DisablesOutput (Configuration.outputKeys lead) disabled := by
  obtain ⟨placed, hplaced, hreports, -⟩ := exists_of_build_eq_ok hfirst
  obtain ⟨placed', hplaced', hreports', -⟩ := exists_of_build_eq_ok hsecond
  obtain ⟨hresembles, hfiles⟩ := resembles_of_firstStep hdiffers hregistries henvironment hplaced
    hplaced'
  obtain ⟨hok, hequal⟩ := setReports_outcome_eq_ok hreports
  obtain ⟨hok', hequal'⟩ := setReports_outcome_eq_ok hreports'
  have hstores : (second.firstStep other).store.registries =
      (first.firstStep store).store.registries := by
    rw [registries_firstStep, registries_firstStep, hregistries]
  have hoption : ReportOptions.exportOption ∈ ReportOptions.declaration.options := by
    simp [ReportOptions.declaration]
  have hexports := hresembles.get_inject hstores ReportOptions.pairwise_independent hoption rfl
    (Configuration.not_mem_outputKeys rfl (by decide) (by decide) lead) ⟨_, rfl, fun _ _ => rfl⟩
    hok hok'
  have hfiles' : disabled.fileConverter = { enabled.fileConverter with
      outputDisabled := disabled.fileConverter.outputDisabled } := by
    rw [hequal, hequal']
    exact hfiles
  rw [hdisabled] at hfiles'
  refine ⟨?_, henabled, hfiles'⟩
  rw [hequal, hequal', hexports]
  exact hresembles.withReports _

end Build

end Builder

/-! ## Injections -/

namespace OutputSample

def reports : OptionDeclaration (List Path × Option Path) :=
  { OptionDeclaration.ofField "reports" (.list (.element .path)) Prod.fst
      (fun paths (pair : List Path × Option Path) => (paths, pair.2)) with
    annotations := [.file .outputFile] }

def input : OptionDeclaration (List Path × Option Path) :=
  { OptionDeclaration.ofField "input" (.nullable (.element .path)) Prod.snd
      (fun path (pair : List Path × Option Path) => (pair.1, path)) with
    annotations := [.file .optionalInput] }

def declaration : Declaration (List Path × Option Path) :=
  ⟨"", none, "", [reports, input]⟩

def store : Store :=
  .initial (.ofDisk (.ofWorkingDirectory []))

def builder (text : String) : Builder :=
  ((Builder.empty.withRegistry "r").withFileSystem (.memory .empty)).set "output.disable" text

def config (text : String) : Configuration :=
  ((builder text).build store).outcome.toOption.getD (.empty "r" false 0 (.memory .empty))

def injected (text : String) : InjectionResult (List Path × Option Path) :=
  (store.inject (config text) declaration ([⟨"a.txt"⟩], some ⟨"b.txt"⟩) none).2

theorem differsAt : (builder "false").DiffersAt (Configuration.outputKeys "") (builder "true") where
  settings_eq key hkey := by
    have hother : "output.disable" ≠ key := by
      rintro rfl
      exact hkey (by simp [Configuration.outputKeys])
    simp only [builder, Builder.set, Settings.found?_insert, if_neg hother]
  rest := rfl

theorem builtIn {text : String}
    (hbuild : ((builder text).build store).outcome = .ok (config text)) :
    (⟨config text, store.registries⟩ : Surroundings).BuiltIn where
  overrides := by
    rw [Builder.config_of_build hbuild]
    rfl
  converters := rfl

theorem unread (text : String) : ∀ option ∈ declaration.options,
    ∀ key ∈ ((config text).finding declaration option).probed,
      key ∉ Configuration.outputKeys "" := by
  simp only [declaration, List.forall_mem_cons, List.not_mem_nil, false_implies, implies_true,
    and_true]
  exact ⟨Configuration.not_mem_outputKeys rfl (by decide) (by decide) "",
    Configuration.not_mem_outputKeys rfl (by decide) (by decide) ""⟩

end OutputSample

end TypedOptions
