import TypedOptions.Annotation
import TypedOptions.Value.Field

/-!
# Declarations

A program declares which options its objects have.  Every option has a name,
a type, conditions on its text, and access to the field or to the setter of
an object that takes the value.
-/

namespace TypedOptions

/-- Why a setter does not take a value. -/
inductive Refusal where
  | invalid (message : String)
  | failed (message : String)
  deriving DecidableEq, Repr

/-- How objects `τ` take values of a type. -/
inductive Access (τ : Type) (type : FieldType) where
  | field (get : τ → type.Carrier) (set : type.Carrier → τ → τ)
  /-- A setter may change the object also when it refuses the value. -/
  | setter (call : type.Carrier → τ → τ × Option Refusal)

structure OptionDeclaration (τ : Type) where
  member : String
  name? : Option String
  deprecatedName? : Option String
  description : String
  isSecure : Bool
  isRequired : Bool
  toUppercase : Bool
  isDeprecated : Bool
  /-- The regular expression that texts have to match from beginning to end. -/
  pattern? : Option String
  /-- The texts that are allowed; all of them if there are none. -/
  allowed : List String
  type : FieldType
  /-- A supertype that classes have to have. -/
  bound? : Option String
  annotations : List Annotation
  access : Access τ type

namespace OptionDeclaration

variable {τ : Type}

/-- A plain option that is a field of the objects. -/
def ofField (member : String) (type : FieldType) (get : τ → type.Carrier)
    (set : type.Carrier → τ → τ) : OptionDeclaration τ where
  member := member
  name? := none
  deprecatedName? := none
  description := ""
  isSecure := false
  isRequired := false
  toUppercase := false
  isDeprecated := false
  pattern? := none
  allowed := []
  type := type
  bound? := none
  annotations := []
  access := .field get set

/-- The name of the option, the name of its member if it has no other. -/
def name (option : OptionDeclaration τ) : String :=
  option.name?.getD option.member

def optionType (option : OptionDeclaration τ) : OptionType :=
  match option.bound? with
  | some bound => option.type.optionType.withBound bound
  | none => option.type.optionType

def isSetter (option : OptionDeclaration τ) : Bool :=
  match option.access with
  | .field _ _ => false
  | .setter _ => true

/-- The current value of a field; setters have none. -/
def read? (option : OptionDeclaration τ) (target : τ) : Option Value :=
  match option.access with
  | .field get _ => some (option.type.toValue (get target))
  | .setter _ => none

end OptionDeclaration

structure Declaration (τ : Type) where
  /-- Where the names of the options are found, empty for the top. -/
  scope : String
  /-- Where they were found in former times. -/
  deprecatedScope? : Option String
  description : String
  options : List (OptionDeclaration τ)

end TypedOptions
