import TypedOptions.Injection.Conversion
import TypedOptions.Proofs.Converter.Shapes

/-!
# Built-in converters

Which converter of the library is meant for an option is told by its annotation,
or else by the type of its elements.  Of these converters only the one for files
does anything to defaults.
-/

namespace TypedOptions

/-! ## The choice of a converter -/

/-- The converter is meant for elements of the type under the annotation. -/
inductive Converter.Serves (annotation? : Option Annotation) (type : ElementType) :
    Converter → Prop where
  | plain (hkey : type.key ∈ Plain.plainKeys) : Serves annotation? type .plain
  | integer {range : LongRange} (hannotated : annotation? = some (.integer range))
      (hkey : type.key ∈ AnnotationKind.integer.applicableTypes) :
      Serves annotation? type .integer
  | timeSpan {rule : SpanAnnotation} (hannotated : annotation? = some (.timeSpan rule))
      (hkey : type.key ∈ AnnotationKind.timeSpan.applicableTypes) :
      Serves annotation? type .timeSpan
  | classes (registry : RegistryId) (hkey : type.key ∈ AnnotationKind.classes.applicableTypes) :
      Serves annotation? type (.classes registry)
  | files (converter : FileConverter) {kind : FileKind}
      (hannotated : annotation? = some (.file kind))
      (hkey : type.key ∈ AnnotationKind.file.applicableTypes) :
      Serves annotation? type (.files converter)

theorem Converter.Serves.answers_convert {converter : Converter} {context : ConversionContext}
    {type : ElementType} (hserves : converter.Serves context.annotation? type)
    (resources : Resources) (text : String) :
    Answers (OptionType.element type).Fits
      (converter.convert resources context text (.element type)) := by
  cases hserves with
  | plain hkey => exact Plain.answers_convert hkey resources.sizeLimit context text
  | integer hannotated hkey => exact RangedInteger.answers_convert hkey hannotated text
  | timeSpan hannotated hkey => exact RangedSpan.answers_convert hkey hannotated text
  | classes registry hkey =>
      exact Classes.answers_convert hkey (resources.catalogs registry) context text
  | files converter hannotated hkey =>
      exact FileConverter.answers_convert hkey hannotated text

/-- No converters but those of the library are in use. -/
structure Surroundings.BuiltIn (given : Surroundings) : Prop where
  overrides : given.config.overrides = []
  converters : given.registry.converters = Registry.builtInConverters given.config.registry

/-- The built-in converter for an annotation. -/
def Annotation.converter (sole : Annotation) (config : Configuration) : Converter :=
  match sole with
  | .integer _ => .integer
  | .timeSpan _ => .timeSpan
  | .file _ => .files config.fileConverter
  | .classes _ => .classes config.registry

theorem ElementType.plain_or_classes (type : ElementType) (hrational : type ≠ .rational)
    (hpath : type.key ≠ .path) (htemplate : type.key ≠ .pathTemplate) :
    type.key ∈ Plain.plainKeys ∨ type.key ∈ AnnotationKind.classes.applicableTypes := by
  cases type with
  | rational => exact absurd rfl hrational
  | path => exact absurd rfl hpath
  | pathTemplate => exact absurd rfl htemplate
  | _ => simp [key, Plain.plainKeys, AnnotationKind.applicableTypes]

/-- The converter that is chosen where no program has added one of its own. -/
def Configuration.builtInConverter (config : Configuration) (annotation? : Option Annotation)
    (key : TypeKey) : Converter :=
  { config with overrides := [] }.converter (.initial config.registry) annotation? key

theorem Surroundings.BuiltIn.converter_eq {given : Surroundings} (hbuiltIn : given.BuiltIn)
    (annotation? : Option Annotation) (key : TypeKey) :
    given.config.converter given.registry annotation? key =
      given.config.builtInConverter annotation? key := by
  unfold Configuration.builtInConverter Configuration.converter Configuration.annotationConverter?
    Configuration.typeConverter? Registry.converter?
  rw [hbuiltIn.overrides, hbuiltIn.converters]
  rfl

namespace Configuration

variable {config : Configuration}

theorem builtInConverter_annotated (sole : Annotation) (key : TypeKey) :
    config.builtInConverter (some sole) key = sole.converter config := by
  cases sole <;> rfl

theorem builtInConverter_classes {key : TypeKey}
    (hkey : key ∈ AnnotationKind.classes.applicableTypes) :
    config.builtInConverter none key = .classes config.registry := by
  cases key <;> simp [AnnotationKind.applicableTypes] at hkey <;> rfl

theorem builtInConverter_plain {key : TypeKey}
    (hkey : key ∉ AnnotationKind.classes.applicableTypes) :
    config.builtInConverter none key = .plain := by
  cases key <;> simp [AnnotationKind.applicableTypes] at hkey <;> rfl

end Configuration

/-! ## Options -/

variable {τ : Type}

namespace OptionDeclaration

variable {option : OptionDeclaration τ}

/-- The role of the files that an option names. -/
def fileKind? (option : OptionDeclaration τ) : Option FileKind :=
  match option.annotations.head? with
  | some (.file kind) => some kind
  | _ => none

theorem fileKind?_eq_some_iff {kind : FileKind} :
    option.fileKind? = some kind ↔ option.annotations.head? = some (.file kind) := by
  unfold fileKind?
  split
  · rename_i hfile
    simp [hfile]
  · rename_i hother
    exact iff_of_false nofun (hother kind)

end OptionDeclaration

namespace Surroundings

/-- The option is converted by the converter of the library that is meant for it. -/
def ServesBuiltIn (given : Surroundings) (option : OptionDeclaration τ) : Prop :=
  given.converter option =
    given.config.builtInConverter option.annotations.head? option.optionType.elementType.key

theorem BuiltIn.serves {given : Surroundings} (hbuiltIn : given.BuiltIn)
    (option : OptionDeclaration τ) : given.ServesBuiltIn option :=
  hbuiltIn.converter_eq _ _

variable {given : Surroundings} {option : OptionDeclaration τ}

theorem convertDefault_of_file (hserves : given.ServesBuiltIn option) {kind : FileKind}
    (hkind : option.fileKind? = some kind) (name : String) (default : Value) :
    given.convertDefault option name default =
      given.config.fileConverter.placeDefault (context option name none) kind default := by
  rw [OptionDeclaration.fileKind?_eq_some_iff] at hkind
  unfold convertDefault
  rw [hserves, hkind, Configuration.builtInConverter_annotated]
  exact FileConverter.convertDefault_of_annotated hkind default

theorem convertDefault_of_no_file (hserves : given.ServesBuiltIn option)
    (hkind : option.fileKind? = none) (name : String) (default : Value) :
    given.convertDefault option name default = .ok default := by
  unfold convertDefault
  rw [hserves]
  cases hannotation : option.annotations.head? with
  | none =>
      by_cases hkey : option.optionType.elementType.key ∈ AnnotationKind.classes.applicableTypes
      · rw [Configuration.builtInConverter_classes hkey]
        rfl
      · rw [Configuration.builtInConverter_plain hkey]
        rfl
  | some sole =>
      rw [Configuration.builtInConverter_annotated]
      cases sole with
      | file kind => simp [OptionDeclaration.fileKind?, hannotation] at hkind
      | _ => rfl

end Surroundings

end TypedOptions
