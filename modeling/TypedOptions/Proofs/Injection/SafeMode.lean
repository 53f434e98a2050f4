import Mathlib.Logic.Relation
import TypedOptions.Proofs.Builder.Building
import TypedOptions.Proofs.Converter.StrayingPaths
import TypedOptions.Proofs.Injection.Fields

/-!
# Safe mode for good

A configuration takes its mode from the registry when it is built, and keeps
it.  From the moment that secure mode is turned on every configuration that
comes into being for the registry is in safe mode, as a build of any builder
or as a view, whatever else the program does meanwhile.  Such a configuration
never stores a path that strays.
-/

namespace TypedOptions

variable {τ : Type}

/-! ## The mode of a configuration -/

namespace Builder

variable {builder : Builder} {store : Store} {config : Configuration}

theorem registries_build (builder : Builder) (store : Store) :
    (builder.build store).store.registries = store.registries := by
  cases hplaced : (builder.firstStep store).outcome with
  | error error => rw [build_of_error hplaced, registries_firstStep]
  | ok placed =>
      rw [(build_of_ok hplaced).2]
      exact registries_firstStep builder store

/-- A configuration is in safe mode if its registry is in secure mode when it is built. -/
theorem safe_of_build (hbuild : (builder.build store).outcome = .ok config) :
    config.fileConverter.safe = (store.registry config.registry).isSecure := by
  obtain ⟨placed, hplaced, hreports, -⟩ := exists_of_build_eq_ok hbuild
  have hregistry : (builder.opened store).registry = config.registry := by
    rw [config_of_build hbuild]
  calc config.fileConverter.safe
      = placed.fileConverter.safe :=
        congrArg (·.fileConverter.safe) (setReports_outcome_eq_ok hreports).2
    _ = (builder.opened store).fileConverter.safe :=
        congrArg (·.fileConverter.safe) (placeFiles_outcome_eq_ok hplaced).2
    _ = ((builder.openUsage store).1.registry (builder.opened store).registry).isSecure := rfl
    _ = (store.registry config.registry).isSecure := by
        rw [Store.registry, registries_openUsage, hregistry]
        rfl

end Builder

/-! ## Programs -/

/-- A store with the configurations that have come into being. -/
structure Program where
  store : Store
  configurations : List Configuration

namespace Program

/-- What a program does: it builds configurations or fails to, takes views of those it has, asks
and injects any configuration, and changes registries. -/
inductive Step (program : Program) : Program → Prop where
  | built (builder : Builder) {config : Configuration}
      (hbuild : (builder.build program.store).outcome = .ok config) :
      Step program ⟨(builder.build program.store).store, config :: program.configurations⟩
  | failed (builder : Builder) {error : OptionError}
      (hbuild : (builder.build program.store).outcome = .error error) :
      Step program ⟨(builder.build program.store).store, program.configurations⟩
  | opened :
      Step program ⟨program.store.defaultConfiguration.1,
        program.store.defaultConfiguration.2 :: program.configurations⟩
  | viewed {config : Configuration} (hconfig : config ∈ program.configurations) (text : String) :
      Step program ⟨program.store, config.withPrefix text :: program.configurations⟩
  | asked (config : Configuration) (name : String) :
      Step program ⟨(program.store.value? config name).1, program.configurations⟩
  | injected {τ : Type} (config : Configuration) (declaration : Declaration τ) (target : τ)
      (defaults? : Option τ) :
      Step program ⟨(program.store.inject config declaration target defaults?).1,
        program.configurations⟩
  | registered (id : RegistryId) (key : ConverterKey) (converter : Converter) :
      Step program ⟨(program.store.register id key converter).1, program.configurations⟩
  | registeredClass (id : RegistryId) (entry : RegisteredClass) :
      Step program ⟨program.store.registerClass id entry, program.configurations⟩
  | enabled (id : RegistryId) :
      Step program ⟨(program.store.enableSecure id).1, program.configurations⟩

/-- The registry is in secure mode, and so every configuration for it is in safe mode. -/
structure Guarded (id : RegistryId) (program : Program) : Prop where
  secure : (program.store.registry id).isSecure = true
  safe : ∀ config ∈ program.configurations, config.registry = id →
    config.fileConverter.safe = true

variable {id : RegistryId} {program next : Program}

/-- Nothing turns secure mode off. -/
theorem isSecure_setRegistry {store : Store} (other : RegistryId) {registry : Registry}
    (hsecure : (store.registry id).isSecure = true)
    (hregistry : (store.registry other).isSecure = true → registry.isSecure = true) :
    ((store.setRegistry other registry).registry id).isSecure = true := by
  rw [Store.registry_setRegistry]
  split
  · rename_i hsame
    subst hsame
    exact hregistry hsecure
  · exact hsecure

theorem Guarded.add {config : Configuration} {store : Store} (hguarded : program.Guarded id)
    (hstore : store.registries = program.store.registries)
    (hsafe : config.registry = id → config.fileConverter.safe = true) :
    (⟨store, config :: program.configurations⟩ : Program).Guarded id where
  secure := by
    change (store.registries.get id).isSecure = true
    rw [hstore]
    exact hguarded.secure
  safe := List.forall_mem_cons.2 ⟨hsafe, hguarded.safe⟩

theorem Guarded.step (hguarded : program.Guarded id) (hstep : program.Step next) :
    next.Guarded id := by
  cases hstep with
  | @built builder config hbuild =>
      refine hguarded.add (Builder.registries_build ..) fun hregistry => ?_
      rw [Builder.safe_of_build hbuild, hregistry, hguarded.secure]
  | failed builder hbuild =>
      refine ⟨?_, hguarded.safe⟩
      change ((builder.build program.store).store.registries.get id).isSecure = true
      rw [Builder.registries_build]
      exact hguarded.secure
  | opened =>
      refine hguarded.add rfl fun hregistry => ?_
      have hid : Registries.globalId = id := hregistry
      subst hid
      exact hguarded.secure
  | @viewed config hconfig text => exact hguarded.add rfl (hguarded.safe config hconfig)
  | asked config name => exact ⟨hguarded.secure, hguarded.safe⟩
  | injected config declaration target defaults? => exact ⟨hguarded.secure, hguarded.safe⟩
  | registered other key converter =>
      exact ⟨isSecure_setRegistry other hguarded.secure fun hsecure => hsecure, hguarded.safe⟩
  | registeredClass other entry =>
      exact ⟨isSecure_setRegistry other hguarded.secure fun hsecure => hsecure, hguarded.safe⟩
  | enabled other =>
      exact ⟨isSecure_setRegistry other hguarded.secure fun _ => rfl, hguarded.safe⟩

theorem Guarded.run (hguarded : program.Guarded id)
    (hrun : Relation.ReflTransGen Step program next) : next.Guarded id := by
  induction hrun with
  | refl => exact hguarded
  | tail _ hstep ih => exact ih.step hstep

/-- Secure mode has just been turned on, and no configuration has come into being since. -/
theorem guarded_enableSecure (store : Store) (id : RegistryId) :
    (⟨(store.enableSecure id).1, []⟩ : Program).Guarded id where
  secure := by
    change ((store.setRegistry id (store.registry id).enableSecure).registry id).isSecure = true
    rw [Store.registry_setRegistry, if_pos rfl]
    rfl
  safe := by simp

end Program

/-! ## Paths that stray -/

theorem exists_error_mapM {ε α β : Type} {step : α → Except ε β} {items : List α} {item : α}
    (hitem : item ∈ items) {error : ε} (herror : step item = .error error) :
    ∃ other, items.mapM step = .error other := by
  induction items with
  | nil => cases hitem
  | cons first rest ih =>
      rw [List.mapM_cons]
      cases hfirst : step first with
      | error cause => exact ⟨cause, rfl⟩
      | ok result =>
          rcases List.mem_cons.1 hitem with rfl | hrest
          · rw [herror] at hfirst
            cases hfirst
          · obtain ⟨other, hother⟩ := ih hrest
            exact ⟨other, by rw [hother]; rfl⟩

theorem FileConverter.exists_error_of_strays {converter : FileConverter}
    (hsafe : converter.safe = true) {type : ElementType}
    (htype : type.key ∈ AnnotationKind.file.applicableTypes) {text : String}
    (hstrays : (⟨text⟩ : Path).Strays) (context : ConversionContext) :
    ∃ error, converter.convert context text (.element type) = .error error := by
  have hcheck : ∃ error, checkSafe context.option ⟨text⟩ = .error error := by
    unfold checkSafe
    cases hfault : pathFault? ⟨text⟩ with
    | none => exact absurd hfault (pathFault?_ne_none_of_strays hstrays)
    | some fault => exact ⟨_, rfl⟩
  obtain ⟨error, hcheck⟩ := hcheck
  unfold convert
  cases kindOf context with
  | error cause => exact ⟨cause, rfl⟩
  | ok kind =>
      refine ⟨error, ?_⟩
      rcases ElementType.eq_of_file htype with rfl | rfl
      · simp only [hsafe, if_true, hcheck]
        rfl
      · simp only [hsafe, if_true, hcheck]
        rfl

namespace OptionDeclaration

/-- The texts that are converted: all of a text or, of a collection, its pieces. -/
def texts (option : OptionDeclaration τ) (text : String) : List String :=
  match option.optionType.collectionKind? with
  | none => [text]
  | some _ => elementTexts text

/-- A path strays also if it is brought to upper case before it is converted. -/
theorem exists_strays_convertedText {option : OptionDeclaration τ} {text : String}
    (hstrays : ∃ piece ∈ option.texts text, (⟨piece⟩ : Path).Strays) :
    ∃ piece ∈ option.texts (option.convertedText text), (⟨piece⟩ : Path).Strays := by
  unfold convertedText
  split
  · obtain ⟨piece, hpiece, hpath⟩ := hstrays
    refine ⟨Text.uppercase piece, ?_, hpath.upper⟩
    unfold texts at hpiece ⊢
    cases hkind : option.optionType.collectionKind? with
    | none =>
        rw [hkind] at hpiece
        simpa using congrArg Text.uppercase (List.mem_singleton.1 hpiece)
    | some kind =>
        rw [hkind] at hpiece
        rw [elementTexts_uppercase]
        exact List.mem_map_of_mem hpiece
  · exact hstrays

theorem exists_error_convertText {option : OptionDeclaration τ}
    {convert : String → OptionType → Conversion} {text piece : String}
    (hpiece : piece ∈ option.texts text) {error : OptionError}
    (herror : convert piece option.optionType.elementType = .error error) :
    ∃ other, option.convertText convert text = .error other := by
  unfold texts at hpiece
  unfold convertText
  cases hkind : option.optionType.collectionKind? with
  | none =>
      rw [hkind] at hpiece
      rw [List.mem_singleton.1 hpiece] at herror
      exact ⟨error, herror⟩
  | some kind =>
      rw [hkind] at hpiece
      have hitems : ∃ other, (elementTexts text).mapM (fun piece =>
          convert piece option.optionType.elementType) = .error other :=
        exists_error_mapM hpiece herror
      obtain ⟨other, hother⟩ := hitems
      refine ⟨other, ?_⟩
      dsimp only
      rw [hother]
      rfl

end OptionDeclaration

namespace Surroundings

variable {given : Surroundings} {option : OptionDeclaration τ} {name : String}

/-- The converter for paths is that of the configuration, unless another one is given. -/
theorem converter_of_file (hoverrides : given.config.overrides.lookup (.annotated .file) = none)
    (hfault : option.fault? name = none) {type : ElementType}
    (helement : option.optionType.elementType = .element type)
    (htype : type.key ∈ AnnotationKind.file.applicableTypes) :
    given.converter option = .files given.config.fileConverter := by
  have hkey : option.optionType.elementType.key = type.key := by
    rw [helement]
    rfl
  unfold converter
  rcases OptionDeclaration.annotations_of_annotationFault?
      (OptionDeclaration.annotationFault?_of_fault? hfault) with
    ⟨-, hpath, htemplate⟩ | ⟨sole, hannotateds, hsuits⟩
  · rw [hkey] at hpath htemplate
    simp [AnnotationKind.applicableTypes, hpath, htemplate] at htype
  · have happlicable := hsuits.applicable
    rw [hkey] at happlicable
    rw [hannotateds, List.head?_cons]
    cases sole with
    | file kind =>
        have hchosen : given.config.annotationConverter? given.registry .file =
            some (.files given.config.fileConverter) := by
          unfold Configuration.annotationConverter?
          rw [hoverrides]
          rfl
        unfold Configuration.converter
        rw [Option.bind_some]
        change ((given.config.annotationConverter? given.registry .file).or _).getD .plain = _
        rw [hchosen]
        rfl
    | _ =>
        rcases ElementType.eq_of_file htype with rfl | rfl <;>
          simp [AnnotationKind.applicableTypes, Annotation.kind, ElementType.key] at happlicable

theorem exists_error_of_strays (hsafe : given.config.fileConverter.safe = true)
    (hoverrides : given.config.overrides.lookup (.annotated .file) = none)
    (hfault : option.fault? name = none) {type : ElementType}
    (helement : option.optionType.elementType = .element type)
    (htype : type.key ∈ AnnotationKind.file.applicableTypes) {setting : FoundValue}
    (hstrays : ∃ piece ∈ option.texts setting.value, (⟨piece⟩ : Path).Strays)
    (expression? : Option Regex) :
    ∃ error, (given.convert option name expression? setting).outcome = .error error := by
  have hconverter := converter_of_file hoverrides hfault helement htype
  obtain ⟨piece, hpiece, hpath⟩ := OptionDeclaration.exists_strays_convertedText hstrays
  obtain ⟨error, herror⟩ := FileConverter.exists_error_of_strays hsafe htype hpath
    (context option name setting.source?)
  have hpieceError : (given.converter option).convert given.registries.resources
      (context option name setting.source?) piece option.optionType.elementType =
        .error error := by
    rw [hconverter, helement]
    exact herror
  obtain ⟨other, hother⟩ := OptionDeclaration.exists_error_convertText hpiece hpieceError
  rw [outcome_convert]
  split
  · exact ⟨_, rfl⟩
  · exact ⟨other, hother⟩

end Surroundings

namespace Injection

variable {given : Surroundings} {declaration : Declaration τ} {defaults? : Option τ}
  {option : OptionDeclaration τ}

/-- An option that is given a path that strays fails, and nothing is written. -/
theorem injectOption_of_strays (hsafe : given.config.fileConverter.safe = true)
    (hoverrides : given.config.overrides.lookup (.annotated .file) = none) {type : ElementType}
    (helement : option.optionType.elementType = .element type)
    (htype : type.key ∈ AnnotationKind.file.applicableTypes) {setting : FoundValue}
    (hchosen : (given.config.finding declaration option).chosen? = some setting)
    (hstrays : ∃ piece ∈ option.texts setting.value, (⟨piece⟩ : Path).Strays)
    (injection : Injection τ) :
    (injection.injectOption given declaration defaults? option).error?.isSome = true ∧
      (injection.injectOption given declaration defaults? option).reached.target =
        injection.target := by
  have hfails : ∀ expression?,
      option.check given.registries.sizeLimit (declaration.nameOf option) = .ok expression? →
      ∀ value?, (injection.conversion given declaration defaults? option expression?).outcome ≠
        .ok value? := by
    intro expression? hcheck value? hvalue
    obtain ⟨error, herror⟩ := Surroundings.exists_error_of_strays hsafe hoverrides
      (OptionDeclaration.fault?_of_check hcheck) helement htype hstrays expression?
    unfold conversion Surroundings.value? at hvalue
    rw [hchosen] at hvalue
    dsimp only at hvalue
    split at hvalue
    · cases hvalue
    · rw [outcome_map, herror] at hvalue
      cases hvalue
  have hstep := step_injectOption given declaration defaults? option injection
  generalize injection.injectOption given declaration defaults? option = result at hstep ⊢
  cases hstep with
  | unsound hcheck => exact ⟨rfl, rfl⟩
  | refused hcheck hvalue => exact ⟨rfl, rfl⟩
  | skipped hcheck hvalue => exact absurd hvalue (hfails _ hcheck _)
  | kept hcheck hvalue hequals => exact absurd hvalue (hfails _ hcheck _)
  | written hcheck hvalue hdiffers => exact absurd hvalue (hfails _ hcheck _)

/-- A run over an option that fails and writes nothing ends with an error, and leaves what the
options before this one have made. -/
theorem injectOptions_of_fails {before after : List (OptionDeclaration τ)}
    (hfails : ∀ middle : Injection τ,
      (middle.injectOption given declaration defaults? option).error?.isSome = true ∧
        (middle.injectOption given declaration defaults? option).reached.target = middle.target)
    (injection : Injection τ) :
    (injection.injectOptions given declaration defaults?
        (before ++ option :: after)).error?.isSome = true ∧
      (injection.injectOptions given declaration defaults?
        (before ++ option :: after)).reached.target =
          (injection.injectOptions given declaration defaults? before).reached.target := by
  rw [injectOptions_append]
  cases hbefore : (injection.injectOptions given declaration defaults? before).error? with
  | some error => exact ⟨by simp [hbefore], rfl⟩
  | none =>
      dsimp only
      obtain ⟨herror, htarget⟩ :=
        hfails (injection.injectOptions given declaration defaults? before).reached
      obtain ⟨error, hsome⟩ := Option.isSome_iff_exists.1 herror
      rw [injectOptions_cons_of_error after hsome]
      exact ⟨herror, htarget⟩

end Injection

/-- How the injection of an object starts. -/
def Store.started (store : Store) (config : Configuration) (declaration : Declaration τ)
    (target : τ) : Injection τ :=
  (Injection.start target (store.usage config.usage)).log
    [.injecting declaration.options.length declaration.scope]

/-- A configuration is in safe mode if its registry is in secure mode when it is built.  Once secure
mode has been turned on, whatever a program does, a configuration that comes into being for the
registry refuses every path that strays: the injection fails, and leaves the object as the options
before this one have made it. -/
theorem straying_paths_refused :
    (∀ (builder : Builder) (store : Store) (config : Configuration),
      (builder.build store).outcome = .ok config →
        config.fileConverter.safe = (store.registry config.registry).isSecure) ∧
    ∀ (store : Store) (later : Program) (config : Configuration),
      Relation.ReflTransGen Program.Step ⟨(store.enableSecure config.registry).1, []⟩ later →
      config ∈ later.configurations →
      config.overrides.lookup (.annotated .file) = none →
      ∀ (τ : Type) (declaration : Declaration τ) (before after : List (OptionDeclaration τ))
        (option : OptionDeclaration τ) (type : ElementType) (setting : FoundValue) (target : τ)
        (defaults? : Option τ),
        declaration.options = before ++ option :: after →
        option.optionType.elementType = .element type → type = .path ∨ type = .pathTemplate →
        (config.finding declaration option).chosen? = some setting →
        (∃ piece ∈ option.texts setting.value, (⟨piece⟩ : Path).Strays) →
          let result := (later.store.inject config declaration target defaults?).2
          result.error?.isSome = true ∧
            result.reached.target =
              ((later.store.started config declaration target).injectOptions
                ⟨config, later.store.registries⟩ declaration defaults? before).reached.target := by
  refine ⟨fun builder store config hbuild => Builder.safe_of_build hbuild, ?_⟩
  intro store later config hrun hconfig hoverrides τ declaration before after option type setting
    target defaults? hoptions helement htype hchosen hstrays result
  have hguarded := (Program.guarded_enableSecure store config.registry).run hrun
  have hsafe : config.fileConverter.safe = true := hguarded.safe config hconfig rfl
  have hkey : type.key ∈ AnnotationKind.file.applicableTypes := by
    rcases htype with rfl | rfl <;> decide
  have hresult : result = (later.store.started config declaration target).injectOptions
      ⟨config, later.store.registries⟩ declaration defaults? (before ++ option :: after) := by
    rw [← hoptions]
    rfl
  rw [hresult]
  exact Injection.injectOptions_of_fails
    (Injection.injectOption_of_strays hsafe hoverrides helement hkey hchosen hstrays) _

/-! ## A sample -/

namespace SafeModeSample

def file : OptionDeclaration (Option Path) :=
  { OptionDeclaration.ofField "file" (.nullable (.element .path)) id fun path _ => path with
    isSecure := true
    annotations := [.file .optionalInput] }

def declaration : Declaration (Option Path) :=
  ⟨"", none, "", [file]⟩

def start : Store :=
  Store.initial (.ofDisk (.ofWorkingDirectory []))

/-- A builder for the registry `r` that sets the option. -/
def builder (value : String) : Builder :=
  (Builder.empty.withRegistry "r").set "file" value

/-- What a build yields, if it does. -/
def built (result : BuildResult) : Configuration :=
  (result.outcome.toOption).getD (.empty "r" false 0 (.memory .empty))

theorem outcome_eq_ok_built {result : BuildResult}
    (hok : result.outcome.toOption.isSome = true) : result.outcome = .ok (built result) :=
  eq_ok_getD hok _

/-- A configuration that was built before secure mode was turned on stores any path. -/
theorem earlier_configuration_unsafe :
    let result := (builder "/etc/passwd").build start
    let config := built result
    let later := (result.store.enableSecure "r").1
    result.outcome.toOption.isSome = true ∧ file.isSecure = true ∧
      (⟨"/etc/passwd"⟩ : Path).isAbsolute = true ∧
      (⟨"/etc/passwd"⟩ : Path).isWithin FileConverter.temporaryDirectory = false ∧
      config.registry = "r" ∧ (later.registry config.registry).isSecure = true ∧
      config.overrides.lookup (.annotated .file) = none ∧
      (later.inject config declaration none none).2.error? = none ∧
      (later.inject config declaration none none).2.reached.target = some ⟨"/etc/passwd"⟩ := by
  decide +kernel

def enabled : Store :=
  (start.enableSecure "r").1

def result : BuildResult :=
  (builder "a/../../b").build enabled

def view : Configuration :=
  (built result).withPrefix "v"

theorem strays_up : (⟨"a/../../b"⟩ : Path).Strays :=
  ⟨[.name "a", .parent, .parent], [.name "b"], by decide, by decide⟩

theorem straying_paths_refused_sample :
    Relation.ReflTransGen Program.Step ⟨enabled, []⟩ ⟨result.store, [view, built result]⟩ ∧
      view.registry = "r" ∧ view.overrides.lookup (.annotated .file) = none ∧
      (view.finding declaration file).chosen? = some ⟨"a/../../b", some .manual⟩ ∧
      (⟨"a/../../b"⟩ : Path).Strays ∧
      (result.store.inject view declaration (some ⟨"c"⟩) none).2.error?.isSome = true ∧
      (result.store.inject view declaration (some ⟨"c"⟩) none).2.reached.target =
        some ⟨"c"⟩ := by
  have hbuild : result.outcome = .ok (built result) := outcome_eq_ok_built (by decide +kernel)
  have hregistry : view.registry = "r" := by decide +kernel
  have hoverrides : view.overrides.lookup (.annotated .file) = none := by decide +kernel
  have hchosen : (view.finding declaration file).chosen? =
      some ⟨"a/../../b", some .manual⟩ := by
    decide +kernel
  have hrun : Relation.ReflTransGen Program.Step ⟨enabled, []⟩
      ⟨result.store, [view, built result]⟩ := by
    refine (Relation.ReflTransGen.single (.built _ hbuild)).tail ?_
    exact .viewed List.mem_cons_self "v"
  have hrunView : Relation.ReflTransGen Program.Step ⟨(start.enableSecure view.registry).1, []⟩
      ⟨result.store, [view, built result]⟩ := by
    rw [hregistry]
    exact hrun
  obtain ⟨herror, htarget⟩ := straying_paths_refused.2 start _ view hrunView List.mem_cons_self
    hoverrides _ declaration [] [] file .path ⟨"a/../../b", some .manual⟩ (some ⟨"c"⟩) none rfl rfl
    (Or.inl rfl) hchosen ⟨"a/../../b", List.mem_singleton_self _, strays_up⟩
  exact ⟨hrun, hregistry, hoverrides, hchosen, strays_up, herror, htarget⟩

end SafeModeSample

end TypedOptions
