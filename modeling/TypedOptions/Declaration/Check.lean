import TypedOptions.Declaration.Basic
import TypedOptions.Error
import TypedOptions.Regex.Reader

/-!
# Sound declarations

Before an option is looked up its declaration is checked: its name, that it
is no collection of collections, its annotation, and the expression that
restricts its text.
-/

namespace TypedOptions

def Annotation.isOutput : Annotation → Bool
  | .file kind => kind.isOutput
  | _ => false

namespace OptionDeclaration

variable {τ : Type}

/-- What is wrong with a single annotation. -/
def singleAnnotationFault? (option : OptionDeclaration τ) (sole : Annotation) :
    Option DeclarationFault :=
  let key := option.optionType.elementType.key
  if key ∉ sole.kind.applicableTypes then some (.notApplicable sole.kind key)
  else if sole.isOutput && !option.type.isNullable &&
      option.optionType.collectionKind?.isNone then
    some .outputNotNullable
  else none

/-- What is wrong with the annotations.  Paths need one, and nothing may have several. -/
def annotationFault? (option : OptionDeclaration τ) : Option DeclarationFault :=
  match option.annotations with
  | [] =>
      let key := option.optionType.elementType.key
      if key = .path ∨ key = .pathTemplate then some .unannotatedPath else none
  | [sole] => option.singleAnnotationFault? sole
  | annotations => some (.manyAnnotations annotations.length)

/-- What is wrong with the declaration under the name of the option, its expression aside. -/
def fault? (option : OptionDeclaration τ) (name : String) : Option DeclarationFault :=
  if !isName name.toList then some .illegalName
  else if option.optionType.elementType.key = .collection then some .nestedCollection
  else option.annotationFault?

/-- The text of an expression that matches what another one matches from beginning to end. -/
def anchored (pattern : String) : String :=
  "^(?:" ++ pattern ++ ")$"

/-- The expression that restricts the text of the option, if the declaration is sound. -/
def check (option : OptionDeclaration τ) (limit : Regex.SizeLimit) (name : String) :
    Except OptionError (Option Regex) :=
  match option.fault? name, option.pattern? with
  | some fault, _ => .error (.declaration name fault)
  | none, none => .ok none
  | none, some pattern =>
      match Regex.read? limit (anchored pattern) with
      | some expression => .ok (some expression)
      | none => .error (.declaration name .noPattern)

theorem check_of_fault {option : OptionDeclaration τ} {limit : Regex.SizeLimit} {name : String}
    {fault : DeclarationFault} (h : option.fault? name = some fault) :
    option.check limit name = .error (.declaration name fault) := by
  simp [check, h]

theorem check_of_pattern_none {option : OptionDeclaration τ} {limit : Regex.SizeLimit}
    {name : String} (hfault : option.fault? name = none) (hpattern : option.pattern? = none) :
    option.check limit name = .ok none := by
  simp [check, hfault, hpattern]

end OptionDeclaration

end TypedOptions
