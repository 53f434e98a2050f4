import TypedOptions.Proofs.Injection.BuiltIn
import TypedOptions.Proofs.Injection.Steps
import TypedOptions.Proofs.Outcome

/-!
# Fields and built-in converters

For a field whose declaration is sound the converter that is chosen yields
what the field can take, from a setting as well as from a default.  So if an
injection of such a field fails, then it is because of the configuration.
-/

namespace TypedOptions

/-! ## Sound declarations -/

namespace OptionDeclaration

variable {τ : Type} {option : OptionDeclaration τ} {name : String}

theorem fault?_of_check {limit : Regex.SizeLimit} {expression? : Option Regex}
    (hcheck : option.check limit name = .ok expression?) :
    option.fault? name = none := by
  cases hfault : option.fault? name with
  | none => rfl
  | some fault =>
      rw [check_of_fault hfault] at hcheck
      cases hcheck

theorem exists_elementType (hfault : option.fault? name = none) :
    ∃ type, option.optionType.elementType = .element type := by
  cases helement : option.optionType.elementType with
  | element type => exact ⟨type, rfl⟩
  | collection kind items =>
      unfold fault? at hfault
      rw [helement] at hfault
      split at hfault
      · cases hfault
      · cases hfault

theorem annotationFault?_of_fault? (hfault : option.fault? name = none) :
    option.annotationFault? = none := by
  unfold fault? at hfault
  split at hfault
  · cases hfault
  · split at hfault
    · cases hfault
    · exact hfault

/-- What the single annotation of a sound declaration is like. -/
structure Suits (option : OptionDeclaration τ) (sole : Annotation) : Prop where
  applicable : option.optionType.elementType.key ∈ sole.kind.applicableTypes
  optional : sole.isOutput = true →
    option.type.isNullable = true ∨ option.optionType.collectionKind?.isSome = true

theorem suits_of_fault?_eq_none {sole : Annotation}
    (hfault : option.singleAnnotationFault? sole = none) : option.Suits sole := by
  unfold singleAnnotationFault? at hfault
  simp only at hfault
  split at hfault
  · cases hfault
  · rename_i hkey
    split at hfault
    · cases hfault
    · rename_i hoptional
      refine ⟨Decidable.not_not.1 hkey, fun houtput => ?_⟩
      cases hnullable : option.type.isNullable with
      | true => exact Or.inl rfl
      | false =>
          right
          rw [houtput, hnullable] at hoptional
          simpa [Option.isSome_iff_ne_none] using hoptional

theorem annotations_of_annotationFault? (hfault : option.annotationFault? = none) :
    (option.annotations = [] ∧ option.optionType.elementType.key ≠ .path ∧
        option.optionType.elementType.key ≠ .pathTemplate) ∨
      ∃ sole, option.annotations = [sole] ∧ option.Suits sole := by
  unfold annotationFault? at hfault
  split at hfault
  · rename_i hannotateds
    simp only [ite_eq_right_iff, reduceCtorEq, imp_false, not_or] at hfault
    exact Or.inl ⟨hannotateds, hfault⟩
  · rename_i sole hannotateds
    exact Or.inr ⟨sole, hannotateds, suits_of_fault?_eq_none hfault⟩
  · cases hfault

theorem serves_annotation {sole : Annotation} {type : ElementType} {config : Configuration}
    (hkey : type.key ∈ sole.kind.applicableTypes) :
    (sole.converter config).Serves (some sole) type := by
  cases sole with
  | integer range => exact .integer rfl hkey
  | timeSpan rule => exact .timeSpan rfl hkey
  | file kind => exact .files config.fileConverter rfl hkey
  | classes packages => exact .classes config.registry hkey

theorem serves_converter {given : Surroundings} (hbuiltIn : given.BuiltIn) {type : ElementType}
    (hfault : option.fault? name = none)
    (helement : option.optionType.elementType = .element type) (hrational : type ≠ .rational) :
    (given.converter option).Serves option.annotations.head? type := by
  have hkey : option.optionType.elementType.key = type.key := by
    rw [helement]
    rfl
  rw [hbuiltIn.serves option, hkey]
  rcases annotations_of_annotationFault? (annotationFault?_of_fault? hfault) with
    ⟨hannotateds, hpath, htemplate⟩ | ⟨sole, hannotateds, hsuits⟩
  · rw [hkey] at hpath htemplate
    rw [hannotateds, List.head?_nil]
    by_cases hclasses : type.key ∈ AnnotationKind.classes.applicableTypes
    · rw [Configuration.builtInConverter_classes hclasses]
      exact .classes given.config.registry hclasses
    · rw [Configuration.builtInConverter_plain hclasses]
      exact .plain ((type.plain_or_classes hrational hpath htemplate).resolve_right hclasses)
  · have happlicable := hsuits.applicable
    rw [hkey] at happlicable
    rw [hannotateds, List.head?_cons, Configuration.builtInConverter_annotated]
    exact serves_annotation happlicable

/-! ## Texts and defaults -/

/-- The texts that are converted, those of its elements in the case of a collection. -/
def convertedPieces (option : OptionDeclaration τ) (text : String) : List String :=
  match option.optionType.collectionKind? with
  | none => [text]
  | some _ => elementTexts text

/-- The pieces of a collection are converted one by one. -/
theorem answers_convertText {convert : String → OptionType → Conversion} {text : String}
    (hconvert : ∀ piece ∈ option.convertedPieces text,
      Answers option.optionType.elementType.Fits (convert piece option.optionType.elementType)) :
    Answers option.optionType.Fits (option.convertText convert text) := by
  unfold convertedPieces at hconvert
  unfold convertText
  cases htype : option.optionType with
  | element type =>
      rw [htype] at hconvert
      exact hconvert text (List.mem_singleton_self text)
  | collection kind items =>
      rw [htype] at hconvert
      have hitems : Answers (fun values => ∀ value ∈ values, items.Fits value)
          ((elementTexts text).mapM fun piece => convert piece items) :=
        Answers.mapM hconvert
      refine hitems.bind fun values hvalues => .ok ⟨_, rfl, fun item hitem => hvalues item ?_⟩
      split at hitem
      · exact Value.mem_of_mem_dropEqual hitem
      · exact hitem

theorem accepts_of_fits {value : Value} (hfits : option.optionType.Fits value) :
    option.type.Accepts value := by
  unfold optionType at hfits
  apply FieldType.accepts_of_fits
  cases hbound : option.bound? with
  | none =>
      rw [hbound] at hfits
      exact hfits
  | some bound =>
      rw [hbound] at hfits
      exact OptionType.fits_withBound_iff.1 hfits

theorem collectionKind?_optionType :
    option.optionType.collectionKind? = option.type.optionType.collectionKind? := by
  unfold optionType
  cases option.bound? with
  | none => rfl
  | some bound => exact OptionType.collectionKind?_withBound option.type.optionType bound

/-- An option for output has a field that may be empty, if its declaration is sound. -/
theorem optional_of_fileKind? (hfault : option.fault? name = none) {kind : FileKind}
    (hkind : option.fileKind? = some kind) (houtput : kind.isOutput = true) :
    option.type.isNullable = true ∨ option.type.optionType.collectionKind?.isSome = true := by
  rw [fileKind?_eq_some_iff] at hkind
  rw [← collectionKind?_optionType]
  rcases annotations_of_annotationFault? (annotationFault?_of_fault? hfault) with
    ⟨hannotations, -⟩ | ⟨sole, hannotations, hsuits⟩
  · rw [hannotations] at hkind
    cases hkind
  · rw [hannotations] at hkind
    cases hkind
    exact hsuits.optional houtput

end OptionDeclaration

namespace Surroundings

variable {τ : Type} {given : Surroundings} {option : OptionDeclaration τ} {name : String}

/-- What makes an option one whose conversions fit: its declaration is sound, and its elements
are no rationals. -/
structure Convertible (option : OptionDeclaration τ) (name : String) : Prop where
  sound : option.fault? name = none
  notRational : option.optionType.elementType ≠ .element .rational

/-- What a setting is converted to fits if its pieces are converted so. -/
theorem answers_convert_of_pieces {expression? : Option Regex} {setting : FoundValue}
    (hpieces : ∀ piece ∈ option.convertedPieces (option.convertedText setting.value),
      Answers option.optionType.elementType.Fits
        ((given.converter option).convert given.registries.resources
          (context option name setting.source?) piece option.optionType.elementType)) :
    Answers option.type.Accepts (given.convert option name expression? setting).outcome := by
  rw [outcome_convert]
  split
  · exact .fault _
  · exact (OptionDeclaration.answers_convertText hpieces).mono fun _ hfits =>
      OptionDeclaration.accepts_of_fits hfits

theorem answers_convert (hbuiltIn : given.BuiltIn) (hoption : Convertible option name)
    (expression? : Option Regex) (setting : FoundValue) :
    Answers option.type.Accepts (given.convert option name expression? setting).outcome := by
  obtain ⟨type, helement⟩ := OptionDeclaration.exists_elementType hoption.sound
  have hrational : type ≠ .rational := by
    rintro rfl
    exact hoption.notRational helement
  have hserves := OptionDeclaration.serves_converter hbuiltIn hoption.sound helement hrational
  apply answers_convert_of_pieces
  intro piece _
  rw [helement]
  exact hserves.answers_convert given.registries.resources piece

/-- Of the defaults only those of files are touched, and they stay what the field can take. -/
theorem answers_convertDefault_of_serves (hserves : given.ServesBuiltIn option)
    (hsound : option.fault? name = none) (content : option.type.Carrier) :
    Answers option.type.Accepts
      (given.convertDefault option name (option.type.toValue content)) := by
  have haccepts := option.type.accepts_toValue content
  cases hkind : option.fileKind? with
  | none =>
      rw [convertDefault_of_no_file hserves hkind]
      exact .ok haccepts
  | some kind =>
      rw [convertDefault_of_file hserves hkind]
      exact FileConverter.answers_placeDefault_of_optional haccepts
        (OptionDeclaration.optional_of_fileKind? hsound hkind)

theorem accepts_of_convertDefault (hserves : given.ServesBuiltIn option)
    (hsound : option.fault? name = none) {content : option.type.Carrier} {value : Value}
    (hvalue : given.convertDefault option name (option.type.toValue content) = .ok value) :
    option.type.Accepts value := by
  exact (answers_convertDefault_of_serves hserves hsound content).right_of_eq_ok hvalue

theorem answers_convertDefault (hbuiltIn : given.BuiltIn) (hoption : Convertible option name)
    (content : option.type.Carrier) :
    Answers option.type.Accepts
      (given.convertDefault option name (option.type.toValue content)) :=
  answers_convertDefault_of_serves (hbuiltIn.serves option) hoption.sound content

end Surroundings

/-! ## Injections -/

namespace Injection

variable {τ : Type} {given : Surroundings} {declaration : Declaration τ}
  {option : OptionDeclaration τ}

theorem exists_of_read? {target : τ} {value : Value} (hread : option.read? target = some value) :
    ∃ content, value = option.type.toValue content := by
  unfold OptionDeclaration.read? at hread
  cases haccess : option.access with
  | field get set =>
      rw [haccess] at hread
      cases hread
      exact ⟨get target, rfl⟩
  | setter call =>
      rw [haccess] at hread
      cases hread

/-- A value that fits is refused by nothing but a setter. -/
theorem error_of_write {value : Value} (haccepts : option.type.Accepts value) {name : String}
    {target : τ} {error : OptionError}
    (hwrite : (option.write name value target).2 = some error) :
    (∃ fault, error = .configuration fault) ∨
      option.isSetter = true ∧ ∃ message, error = .setter name (.failed message) := by
  obtain ⟨content, hcontent⟩ := Option.isSome_iff_exists.1 haccepts
  have hvalue : option.type.ofValue? value = some content := hcontent
  unfold OptionDeclaration.write at hwrite
  unfold OptionDeclaration.isSetter
  rw [hvalue] at hwrite
  cases haccess : option.access with
  | field get set =>
      rw [haccess] at hwrite
      cases hwrite
  | setter call =>
      rw [haccess] at hwrite
      obtain ⟨refusal, -, rfl⟩ := Option.map_eq_some_iff.1 hwrite
      cases refusal with
      | invalid message => exact Or.inl ⟨_, rfl⟩
      | failed message => exact Or.inr ⟨rfl, message, rfl⟩

/-- An option is given what its setting or else its default is converted to. -/
theorem answers_conversion_of {defaults? : Option τ} {expression? : Option Regex}
    {injection : Injection τ}
    (hsetting : ∀ setting, (given.config.finding declaration option).chosen? = some setting →
      Answers option.type.Accepts
        (given.convert option (declaration.nameOf option) expression? setting).outcome)
    (hdefault : ∀ content, Answers option.type.Accepts
      (given.convertDefault option (declaration.nameOf option) (option.type.toValue content))) :
    Answers (fun value? => ∀ value ∈ value?, option.type.Accepts value)
      (injection.conversion given declaration defaults? option expression?).outcome := by
  unfold conversion Surroundings.value?
  split
  · rename_i setting hchosen
    split
    · exact .fault _
    · rw [outcome_map]
      refine .map ((hsetting setting hchosen).mono ?_)
      intro value haccepts other hother
      cases hother
      exact haccepts
  · split
    · exact .fault _
    · split
      · rename_i default hread
        obtain ⟨content, rfl⟩ := exists_of_read? hread
        refine .map ((hdefault content).mono ?_)
        intro value haccepts other hother
        cases hother
        exact haccepts
      · exact .ok nofun

theorem answers_conversion (hbuiltIn : given.BuiltIn)
    (hoption : Surroundings.Convertible option (declaration.nameOf option))
    (defaults? : Option τ) (expression? : Option Regex) (injection : Injection τ) :
    Answers (fun value? => ∀ value ∈ value?, option.type.Accepts value)
      (injection.conversion given declaration defaults? option expression?).outcome :=
  answers_conversion_of
    (fun setting _ => Surroundings.answers_convert hbuiltIn hoption expression? setting)
    (Surroundings.answers_convertDefault hbuiltIn hoption)

/-- Fields take all that fits them, so an injection that fails has failed before or in a setter. -/
theorem error_of_answers {defaults? : Option τ} {expression? : Option Regex}
    {injection : Injection τ}
    (hcheck : option.check given.registries.sizeLimit (declaration.nameOf option) = .ok expression?)
    (hconversion : Answers (fun value? => ∀ value ∈ value?, option.type.Accepts value)
      (injection.conversion given declaration defaults? option expression?).outcome)
    {error : OptionError}
    (herror : (injection.injectOption given declaration defaults? option).error? = some error) :
    (∃ fault, error = .configuration fault) ∨
      option.isSetter = true ∧
        ∃ message, error = .setter (declaration.nameOf option) (.failed message) := by
  have hstep := step_injectOption given declaration defaults? option injection
  generalize injection.injectOption given declaration defaults? option = result at hstep herror
  cases hstep with
  | unsound hfault =>
      rw [hcheck] at hfault
      cases hfault
  | refused hchecked hvalue =>
      cases hcheck.symm.trans hchecked
      rw [hvalue] at hconversion
      cases herror
      cases hconversion with
      | fault fault => exact Or.inl ⟨fault, rfl⟩
  | skipped _ hvalue => cases herror
  | kept _ hvalue hequals => cases herror
  | @written _ value hchecked hvalue hdiffers =>
      cases hcheck.symm.trans hchecked
      rw [hvalue] at hconversion
      cases hconversion with
      | ok haccepts => exact error_of_write (haccepts value rfl) herror

theorem fault_of_injectOption (hbuiltIn : given.BuiltIn) (hfield : option.isSetter = false)
    (hoption : Surroundings.Convertible option (declaration.nameOf option))
    {expression? : Option Regex}
    (hcheck : option.check given.registries.sizeLimit (declaration.nameOf option) =
      .ok expression?) {defaults? : Option τ}
    {injection : Injection τ} {error : OptionError}
    (herror : (injection.injectOption given declaration defaults? option).error? = some error) :
    ∃ fault, error = .configuration fault := by
  have hconversion := answers_conversion hbuiltIn hoption defaults? expression? injection
  rcases error_of_answers hcheck hconversion herror with hfault | ⟨hsetter, -⟩
  · exact hfault
  · rw [hfield] at hsetter
    cases hsetter

/-- The injection of a field that is declared soundly and holds no rationals fails only because of
the configuration as long as no converters are in use but the built-in ones: whatever a text or a
default is converted to is a value of the field. -/
theorem field_errors_are_faults (given : Surroundings) (declaration : Declaration τ)
    (option : OptionDeclaration τ) (hbuiltIn : given.BuiltIn) (hfield : option.isSetter = false)
    (hsound : ∃ expression?,
      option.check given.registries.sizeLimit (declaration.nameOf option) = .ok expression?)
    (hrational : option.optionType.elementType ≠ .element .rational) :
    (∀ (injection : Injection τ) defaults? error,
      (injection.injectOption given declaration defaults? option).error? = some error →
        ∃ fault, error = .configuration fault) ∧
    (∀ expression? setting value,
      (given.convert option (declaration.nameOf option) expression? setting).outcome = .ok value →
        (option.type.ofValue? value).isSome = true) ∧
    ∀ content value,
      given.convertDefault option (declaration.nameOf option) (option.type.toValue content) =
        .ok value →
        (option.type.ofValue? value).isSome = true := by
  obtain ⟨expression?, hcheck⟩ := hsound
  have hoption : Surroundings.Convertible option (declaration.nameOf option) :=
    ⟨OptionDeclaration.fault?_of_check hcheck, hrational⟩
  refine ⟨?_, ?_, ?_⟩
  · intro injection defaults? error herror
    exact fault_of_injectOption hbuiltIn hfield hoption hcheck herror
  · intro expression? setting value hvalue
    have hanswers := Surroundings.answers_convert hbuiltIn hoption expression? setting
    rw [hvalue] at hanswers
    cases hanswers with
    | ok haccepts => exact haccepts
  · intro content value hvalue
    have hanswers := Surroundings.answers_convertDefault hbuiltIn hoption content
    rw [hvalue] at hanswers
    cases hanswers with
    | ok haccepts => exact haccepts

end Injection

/-! ## A sample -/

namespace FieldSample

/-- An output file that may be missing. -/
def file : OptionDeclaration (Option Path) :=
  { OptionDeclaration.ofField "file" (.nullable (.element .path)) id fun path _ => path with
    annotations := [.file .outputFile] }

def declaration : Declaration (Option Path) :=
  ⟨"", none, "", [file]⟩

/-- Output is disabled, and the option is set to what is a directory. -/
def given : Surroundings where
  config :=
    { Configuration.empty "r" false 0 (.memory .empty) with
      settings := .ofSettings [("file", ⟨"x", .manual⟩)]
      fileConverter :=
        { FileConverter.ofDefaults false (.memory (MemoryFiles.empty.withDirectory ⟨"/out/x"⟩)) with
          output := ⟨"/out"⟩
          outputDisabled := true } }
  registries := .empty fun _ => true

theorem field_errors_are_faults_sample :
    given.convertDefault file "file" (.path ⟨"a"⟩) = .ok .absent ∧
      (file.type.ofValue? .absent).isSome = true ∧
      ∃ fault, ((Injection.start none .empty).injectOption given declaration none file).error? =
        some (.configuration fault) := by
  have hbuiltIn : given.BuiltIn := ⟨rfl, rfl⟩
  have hcheck : (file.check given.registries.sizeLimit
      (declaration.nameOf file)).toOption.isSome = true := by
    decide +kernel
  have hsound : ∃ expression?,
      file.check given.registries.sizeLimit (declaration.nameOf file) = .ok expression? := by
    obtain ⟨expression?, hexpression⟩ := Option.isSome_iff_exists.1 hcheck
    exact ⟨expression?, toOption_eq_some_iff.1 hexpression⟩
  obtain ⟨herrors, -, hdefaults⟩ :=
    Injection.field_errors_are_faults given declaration file hbuiltIn rfl hsound (by decide)
  have hdefault : given.convertDefault file "file" (.path ⟨"a"⟩) = .ok .absent := by
    rfl
  have hfails : ((Injection.start none .empty).injectOption given declaration none
      file).error?.isSome = true := by
    decide +kernel
  obtain ⟨error, herror⟩ := Option.isSome_iff_exists.1 hfails
  obtain ⟨fault, rfl⟩ := herrors _ none error herror
  exact ⟨hdefault, hdefaults (some ⟨"a"⟩) .absent hdefault, fault, herror⟩

end FieldSample

end TypedOptions
