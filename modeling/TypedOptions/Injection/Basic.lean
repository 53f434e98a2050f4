import TypedOptions.Injection.Conversion
import TypedOptions.Injection.Finding

/-!
# Injection

The options of a declaration are given their values one after the other.
For each the declaration is checked, the value is looked up and converted,
and it is written unless the object holds it already.  The first error ends
the injection; what was written before it stays.
-/

namespace TypedOptions

namespace OptionDeclaration

variable {τ : Type}

def write (option : OptionDeclaration τ) (name : String) (value : Value) (target : τ) :
    τ × Option OptionError :=
  match option.type.ofValue? value with
  | none => (target, some (.setter name (.wrongShape value.text)))
  | some typed =>
      match option.access with
      | .field _ set => (set typed target, none)
      | .setter call =>
          let (target, refusal?) := call typed target
          let error? := refusal?.map fun
            | .invalid message => .configuration (.value value.text name (.refused message))
            | .failed message => .setter name (.failed message)
          (target, error?)

end OptionDeclaration

structure Injection (τ : Type) where
  target : τ
  usage : Usage
  events : List LogEvent

structure InjectionResult (τ : Type) where
  reached : Injection τ
  error? : Option OptionError

namespace Injection

variable {τ : Type}

def start (target : τ) (usage : Usage) : Injection τ :=
  ⟨target, usage, []⟩

def log (injection : Injection τ) (events : List LogEvent) : Injection τ :=
  { injection with events := injection.events ++ events }

/-- Writes a value unless it is the current one. -/
def store (option : OptionDeclaration τ) (name : String) (value : Value) (current? : Option Value)
    (injection : Injection τ) : InjectionResult τ :=
  if current?.any (·.equals value) then ⟨injection.log [.keeping name value.text], none⟩
  else
    let (target, error?) := option.write name value injection.target
    ⟨{ injection.log [.setting name value.text] with target }, error?⟩

/-- Injects one option.  Defaults are taken from `defaults?` or else from the object itself. -/
def injectOption (given : Surroundings) (declaration : Declaration τ) (defaults? : Option τ)
    (option : OptionDeclaration τ) (injection : Injection τ) : InjectionResult τ :=
  let name := OptionName.qualify declaration.scope option.name
  match option.check given.registries.sizeLimit name with
  | .error error => ⟨injection, some error⟩
  | .ok expression? =>
      let current? := option.read? injection.target
      let default? := option.read? (defaults?.getD injection.target)
      let former := Finding.formerNames declaration option name
      let finding := Finding.ofNames given.config name former option.isDeprecated
      let conversion := given.value? option name expression? finding.chosen? default?
      let found :=
        { injection with usage := finding.record injection.usage }.log
          (finding.events ++ conversion.events)
      match conversion.outcome with
      | .error error => ⟨found, some error⟩
      | .ok none => ⟨found, none⟩
      | .ok (some value) => found.store option name value current?

/-- Injects options in their order, up to the first error. -/
def injectOptions (given : Surroundings) (declaration : Declaration τ) (defaults? : Option τ) :
    List (OptionDeclaration τ) → Injection τ → InjectionResult τ
  | [], injection => ⟨injection, none⟩
  | option :: rest, injection =>
      let result := injection.injectOption given declaration defaults? option
      match result.error? with
      | some _ => result
      | none => result.reached.injectOptions given declaration defaults? rest

def injectAll (given : Surroundings) (declaration : Declaration τ) (defaults? : Option τ)
    (injection : Injection τ) : InjectionResult τ :=
  (injection.log [.injecting declaration.options.length declaration.scope]).injectOptions given
    declaration defaults? declaration.options

@[simp] theorem injectOptions_nil (given : Surroundings) (declaration : Declaration τ)
    (defaults? : Option τ) (injection : Injection τ) :
    injection.injectOptions given declaration defaults? [] = ⟨injection, none⟩ :=
  rfl

theorem injectOptions_cons_of_error {given : Surroundings} {declaration : Declaration τ}
    {defaults? : Option τ} {option : OptionDeclaration τ} {injection : Injection τ}
    {error : OptionError} (rest : List (OptionDeclaration τ))
    (h : (injection.injectOption given declaration defaults? option).error? = some error) :
    injection.injectOptions given declaration defaults? (option :: rest) =
      injection.injectOption given declaration defaults? option := by
  simp [injectOptions, h]

theorem injectOptions_cons_of_ok {given : Surroundings} {declaration : Declaration τ}
    {defaults? : Option τ} {option : OptionDeclaration τ} {injection : Injection τ}
    (rest : List (OptionDeclaration τ))
    (h : (injection.injectOption given declaration defaults? option).error? = none) :
    injection.injectOptions given declaration defaults? (option :: rest) =
      (injection.injectOption given declaration defaults? option).reached.injectOptions given
        declaration defaults? rest := by
  simp [injectOptions, h]

end Injection

end TypedOptions
