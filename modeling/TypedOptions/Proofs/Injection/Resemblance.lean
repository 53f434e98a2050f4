import TypedOptions.Proofs.Converter.Defaults
import TypedOptions.Proofs.Injection.OwnFields

/-!
# Configurations that differ in some settings

Two configurations that differ under some keys only have the same setting for
an option that is not read under these keys.  If the option is converted alike
too, then its field has the same content after injections of both.  So it makes
no difference that output is disabled in one of them, unless the option names
files to be written and is not set.
-/

namespace TypedOptions

variable {τ : Type}

/-! ## Options that are treated alike -/

namespace Injection

/-- The option has the same setting in both surroundings, or none, and it is converted in the same
way.  The default counts only if there is no setting. -/
structure SameFor (declaration : Declaration τ) (option : OptionDeclaration τ)
    (first second : Surroundings) : Prop where
  chosen?_eq : (second.config.finding declaration option).chosen? =
    (first.config.finding declaration option).chosen?
  isSecure_eq : second.registry.isSecure = first.registry.isSecure
  sizeLimit_eq : second.registries.sizeLimit = first.registries.sizeLimit
  convert_eq : ∀ context text type,
    (second.converter option).convert second.registries.resources context text type =
      (first.converter option).convert first.registries.resources context text type
  convertDefault_eq : (first.config.finding declaration option).chosen? = none → ∀ default,
    second.convertDefault option (declaration.nameOf option) default =
      first.convertDefault option (declaration.nameOf option) default

namespace SameFor

variable {declaration : Declaration τ} {option : OptionDeclaration τ}
  {first second : Surroundings} (hsame : SameFor declaration option first second)
include hsame

theorem outcome_convert (expression? : Option Regex) (setting : FoundValue) :
    (second.convert option (declaration.nameOf option) expression? setting).outcome =
      (first.convert option (declaration.nameOf option) expression? setting).outcome := by
  have hconvert (context : ConversionContext) :
      (second.converter option).convert second.registries.resources context =
        (first.converter option).convert first.registries.resources context := by
    funext text type
    exact hsame.convert_eq context text type
  rw [Surroundings.outcome_convert, Surroundings.outcome_convert, hconvert]

theorem offered?_eq (default? : Option Value) :
    offered? second declaration option default? = offered? first declaration option default? := by
  unfold offered?
  rw [hsame.sizeLimit_eq]
  cases option.check first.registries.sizeLimit (declaration.nameOf option) with
  | error error => rfl
  | ok expression? =>
      dsimp only
      rw [hsame.chosen?_eq]
      unfold Surroundings.value?
      cases hchosen : (first.config.finding declaration option).chosen? with
      | some setting =>
          dsimp only
          rw [hsame.isSecure_eq]
          split
          · rfl
          · rw [outcome_map, outcome_map, hsame.outcome_convert]
      | none =>
          cases default? with
          | none => rfl
          | some default =>
              dsimp only
              rw [hsame.convertDefault_eq hchosen]

theorem fieldAfter?_eq (default held : option.type.Carrier) :
    fieldAfter? second declaration option default held =
      fieldAfter? first declaration option default held := by
  unfold fieldAfter? decision?
  rw [hsame.offered?_eq]

/-- Two injections that treat a field alike leave it with the same content. -/
theorem get_inject {store other : Store} (hfirst : store.registries = first.registries)
    (hsecond : other.registries = second.registries)
    (hindependent : declaration.options.Pairwise OptionDeclaration.Independent)
    {get : τ → option.type.Carrier} (hoption : option ∈ declaration.options)
    (hfield : option.IsField get) {target : τ} {defaults? : Option τ}
    (hok : (store.inject first.config declaration target defaults?).2.error? = none)
    (hother : (other.inject second.config declaration target defaults?).2.error? = none) :
    get (other.inject second.config declaration target defaults?).2.reached.target =
      get (store.inject first.config declaration target defaults?).2.reached.target := by
  have hright := fieldAfter?_inject hfirst hindependent hoption hfield hok
  have hleft := fieldAfter?_inject hsecond hindependent hoption hfield hother
  rw [hsame.fieldAfter?_eq, hright] at hleft
  exact (Option.some.inj hleft).symm

end SameFor

end Injection

/-! ## Settings that are read -/

theorem Settings.findFirst?_of_probes {first second : Settings} {keys : List String}
    (hsame : ∀ key ∈ first.probes keys, second.found? key = first.found? key) :
    second.findFirst? keys = first.findFirst? keys := by
  induction keys with
  | nil => rfl
  | cons key rest ih =>
      rw [findFirst?_cons, findFirst?_cons]
      by_cases hset : key ∈ first
      · rw [probes, if_pos hset] at hsame
        obtain ⟨setting, hsetting⟩ :=
          Option.isSome_iff_exists.1 ((first.isSome_found? key).2 hset)
        rw [hsame key List.mem_cons_self, hsetting, Option.some_or, Option.some_or]
      · rw [probes, if_neg hset] at hsame
        rw [hsame key List.mem_cons_self,
          ih fun other hother => hsame other (List.mem_cons_of_mem _ hother)]

namespace Configuration

theorem chosen?_of_probed {first second : Configuration} {declaration : Declaration τ}
    {option : OptionDeclaration τ} (hlead : second.keyPrefix = first.keyPrefix)
    (hsame : ∀ key ∈ (first.finding declaration option).probed,
      second.settings.found? key = first.settings.found? key) :
    (second.finding declaration option).chosen? = (first.finding declaration option).chosen? := by
  have hfind : ∀ name,
      (∀ key ∈ first.probes name, second.settings.found? key = first.settings.found? key) →
      second.find? name = first.find? name := by
    intro name hname
    unfold find? keys
    rw [hlead]
    exact Settings.findFirst?_of_probes hname
  unfold finding Finding.ofNames at hsame
  dsimp only at hsame
  simp only [List.mem_append, List.mem_flatMap] at hsame
  rw [finding, finding, Finding.chosen?_ofNames, Finding.chosen?_ofNames]
  congr 1
  · exact hfind _ fun key hkey => hsame key (Or.inl hkey)
  · rw [← List.head?_filterMap, ← List.head?_filterMap]
    congr 1
    apply List.filterMap_congr
    intro former hformer
    exact hfind former fun key hkey => hsame key (Or.inr ⟨former, hformer, hkey⟩)

/-- The configurations differ in nothing but the settings under some keys, the record of usage and
the converter for files. -/
structure Resembles (keys : List String) (first second : Configuration) : Prop where
  settings_eq : ∀ key, key ∉ keys → second.settings.found? key = first.settings.found? key
  rest : second = { first with
    settings := second.settings
    usage := second.usage
    fileConverter := second.fileConverter }

/-- The second configuration is the first one with its output disabled. -/
structure DisablesOutput (keys : List String) (enabled disabled : Configuration) : Prop
    extends enabled.Resembles keys disabled where
  outputEnabled : enabled.fileConverter.outputDisabled = false
  fileConverter_eq : disabled.fileConverter = enabled.fileConverter.withoutOutput

namespace Resembles

variable {keys : List String} {first second : Configuration}
  (hresembles : first.Resembles keys second)
include hresembles

theorem keyPrefix_eq : second.keyPrefix = first.keyPrefix :=
  congrArg (·.keyPrefix) hresembles.rest

theorem overrides_eq : second.overrides = first.overrides :=
  congrArg (·.overrides) hresembles.rest

theorem registry_eq : second.registry = first.registry :=
  congrArg (·.registry) hresembles.rest

theorem withPrefix (text : String) :
    (first.withPrefix text).Resembles keys (second.withPrefix text) where
  settings_eq := hresembles.settings_eq
  rest := congrArg (·.withPrefix text) hresembles.rest

theorem withFiles (converter other : FileConverter) :
    { first with fileConverter := converter }.Resembles keys
      { second with fileConverter := other } where
  settings_eq := hresembles.settings_eq
  rest := congrArg (fun config => { config with fileConverter := other }) hresembles.rest

theorem withReports (exportsUsed : Bool) :
    { first with exportsUsed }.Resembles keys { second with exportsUsed } where
  settings_eq := hresembles.settings_eq
  rest := congrArg (fun config => { config with exportsUsed }) hresembles.rest

theorem chosen?_eq {declaration : Declaration τ} {option : OptionDeclaration τ}
    (hunread : ∀ key ∈ (first.finding declaration option).probed, key ∉ keys) :
    (second.finding declaration option).chosen? = (first.finding declaration option).chosen? :=
  chosen?_of_probed hresembles.keyPrefix_eq fun key hkey =>
    hresembles.settings_eq key (hunread key hkey)

/-- Files are no matter of options without an annotation. -/
theorem sameFor (registries : Registries) {declaration : Declaration τ}
    {option : OptionDeclaration τ} (hplain : option.annotations = [])
    (hunread : ∀ key ∈ (first.finding declaration option).probed, key ∉ keys) :
    Injection.SameFor declaration option ⟨first, registries⟩ ⟨second, registries⟩ := by
  have hregistry : (⟨second, registries⟩ : Surroundings).registry =
      (⟨first, registries⟩ : Surroundings).registry :=
    congrArg registries.get hresembles.registry_eq
  have hconverter : (⟨second, registries⟩ : Surroundings).converter option =
      (⟨first, registries⟩ : Surroundings).converter option := by
    unfold Surroundings.converter
    rw [hplain, hregistry, List.head?_nil, converter_no_annotation, converter_no_annotation,
      typeConverter?, typeConverter?, hresembles.overrides_eq]
  constructor
  · exact hresembles.chosen?_eq hunread
  · rw [hregistry]
  · rfl
  · rw [hconverter]
    exact fun _ _ _ => rfl
  · unfold Surroundings.convertDefault
    rw [hconverter]
    exact fun _ _ => rfl

end Resembles

end Configuration

/-! ## Disabled output -/

namespace Injection

/-- An option that names files to be written and is not set. -/
structure UnsetOutput (config : Configuration) (declaration : Declaration τ)
    (option : OptionDeclaration τ) : Prop where
  unset : (config.finding declaration option).chosen? = none
  isOutput : ∃ kind, option.fileKind? = some kind ∧ kind.isOutput = true

/-- An unset option for output loses its default while output is disabled. -/
theorem toValue_of_unsetOutput {given : Surroundings} {declaration : Declaration τ}
    {option : OptionDeclaration τ} (hserves : given.ServesBuiltIn option)
    (hdisabled : given.config.fileConverter.outputDisabled = true)
    (hunset : UnsetOutput given.config declaration option)
    {default held next : option.type.Carrier}
    (hnext : fieldAfter? given declaration option default held = some next) :
    option.type.toValue next = (option.type.toValue default).emptied := by
  obtain ⟨value, hoffers, htaken⟩ := fieldAfter?_eq_some_iff.1 hnext
  obtain ⟨kind, hkind, houtput⟩ := hunset.isOutput
  have hsuppressed : (kind.isOutput && given.config.fileConverter.outputDisabled) = true := by
    rw [houtput, hdisabled, Bool.and_self]
  cases hoffers with
  | setting _ hchosen =>
      rw [hunset.unset] at hchosen
      cases hchosen
  | default _ _ _ hvalue =>
      rw [Surroundings.convertDefault_of_file hserves hkind,
        FileConverter.placeDefault_of_disabled hsuppressed] at hvalue
      cases hvalue
      unfold OptionDeclaration.take? at htaken
      split at htaken
      · rename_i hequals
        cases htaken
        exact Value.eq_emptied_of_equals hequals
      · exact FieldType.toValue_of_emptied htaken

end Injection

namespace Configuration.DisablesOutput

variable {keys : List String} {enabled disabled : Configuration}
  (hdisables : enabled.DisablesOutput keys disabled)
include hdisables

theorem outputDisabled : disabled.fileConverter.outputDisabled = true := by
  rw [hdisables.fileConverter_eq]
  rfl

theorem withPrefix (text : String) :
    (enabled.withPrefix text).DisablesOutput keys (disabled.withPrefix text) where
  toResembles := hdisables.toResembles.withPrefix text
  outputEnabled := hdisables.outputEnabled
  fileConverter_eq := hdisables.fileConverter_eq

theorem convert_builtInConverter (annotation? : Option Annotation) (key : TypeKey)
    (resources : Resources) (context : ConversionContext) (text : String)
    (type : OptionType) :
    (disabled.builtInConverter annotation? key).convert resources context text type =
      (enabled.builtInConverter annotation? key).convert resources context text type := by
  have hregistry := hdisables.registry_eq
  cases annotation? with
  | none =>
      by_cases hkey : key ∈ AnnotationKind.classes.applicableTypes
      · rw [builtInConverter_classes hkey, builtInConverter_classes hkey, hregistry]
      · rw [builtInConverter_plain hkey, builtInConverter_plain hkey]
  | some sole =>
      rw [builtInConverter_annotated, builtInConverter_annotated]
      cases sole with
      | file kind =>
          unfold Annotation.converter
          rw [hdisables.fileConverter_eq]
          exact FileConverter.convert_withoutOutput ..
      | classes packages =>
          unfold Annotation.converter
          rw [hregistry]
      | _ => rfl

theorem sameFor_of_serves (registries : Registries) {declaration : Declaration τ}
    {option : OptionDeclaration τ}
    (henabled : (⟨enabled, registries⟩ : Surroundings).ServesBuiltIn option)
    (hdisabled : (⟨disabled, registries⟩ : Surroundings).ServesBuiltIn option)
    (hunread : ∀ key ∈ (enabled.finding declaration option).probed, key ∉ keys)
    (hother : ¬Injection.UnsetOutput enabled declaration option) :
    Injection.SameFor declaration option ⟨enabled, registries⟩ ⟨disabled, registries⟩ where
  chosen?_eq := hdisables.chosen?_eq hunread
  isSecure_eq := by
    unfold Surroundings.registry
    rw [hdisables.registry_eq]
  sizeLimit_eq := rfl
  convert_eq context text type := by
    rw [henabled, hdisabled]
    exact hdisables.convert_builtInConverter ..
  convertDefault_eq hunset default := by
    cases hkind : option.fileKind? with
    | none =>
        rw [Surroundings.convertDefault_of_no_file hdisabled hkind,
          Surroundings.convertDefault_of_no_file henabled hkind]
    | some kind =>
        have hinput : kind.isOutput = false := by
          by_contra houtput
          exact hother ⟨hunset, kind, hkind, Bool.not_eq_false _ ▸ houtput⟩
        rw [Surroundings.convertDefault_of_file hdisabled hkind,
          Surroundings.convertDefault_of_file henabled hkind, hdisables.fileConverter_eq]
        exact FileConverter.placeDefault_withoutOutput hinput default

section Injections

variable {store other : Store} (hregistries : other.registries = store.registries)
  {declaration : Declaration τ} {option : OptionDeclaration τ}
  (hdisabled : (⟨disabled, store.registries⟩ : Surroundings).ServesBuiltIn option)
  (hunread : ∀ key ∈ (enabled.finding declaration option).probed, key ∉ keys)
include hregistries hdisabled hunread

theorem get_inject (henabled : (⟨enabled, store.registries⟩ : Surroundings).ServesBuiltIn option)
    (hother : ¬Injection.UnsetOutput enabled declaration option)
    (hindependent : declaration.options.Pairwise OptionDeclaration.Independent)
    (hoption : option ∈ declaration.options) {get : τ → option.type.Carrier}
    (hfield : option.IsField get) {target : τ} {defaults? : Option τ}
    (hwriting : (store.inject enabled declaration target defaults?).2.error? = none)
    (hsilent : (other.inject disabled declaration target defaults?).2.error? = none) :
    get (other.inject disabled declaration target defaults?).2.reached.target =
      get (store.inject enabled declaration target defaults?).2.reached.target := by
  have hsame := hdisables.sameFor_of_serves store.registries henabled hdisabled hunread hother
  have hgiven : store.registries = (⟨enabled, store.registries⟩ : Surroundings).registries := rfl
  exact (hsame.get_inject hgiven hregistries hindependent hoption hfield hwriting hsilent :)

theorem toValue_inject (hunset : Injection.UnsetOutput enabled declaration option)
    (hindependent : declaration.options.Pairwise OptionDeclaration.Independent)
    (hoption : option ∈ declaration.options) {get : τ → option.type.Carrier}
    (hfield : option.IsField get) {target : τ} {defaults? : Option τ}
    (hsilent : (other.inject disabled declaration target defaults?).2.error? = none) :
    option.type.toValue (get (other.inject disabled declaration target defaults?).2.reached.target) =
      (option.type.toValue (get (defaults?.getD target))).emptied := by
  have hlost : Injection.UnsetOutput disabled declaration option :=
    ⟨(hdisables.chosen?_eq hunread).trans hunset.unset, hunset.isOutput⟩
  have hgiven : other.registries = (⟨disabled, store.registries⟩ : Surroundings).registries :=
    hregistries
  have hafter := Injection.fieldAfter?_inject hgiven hindependent hoption hfield hsilent
  exact Injection.toValue_of_unsetOutput hdisabled hdisables.outputDisabled hlost hafter

end Injections

end Configuration.DisablesOutput

end TypedOptions
