import TypedOptions.Converter.Context

/-!
# Classes and factories

A class is looked for under the name as it is given and then in the packages
of the annotation.  The first registered name decides: whether its class is
fit for the option is asked of no other.
-/

namespace TypedOptions.Classes

def converterName : String := "ClassTypeConverter"

def packages (context : ConversionContext) : List String :=
  match context.annotation? with
  | some (.classes packages) => packages
  | _ => []

/-- The names under which a class is looked for, in order. -/
def candidates (packages : List String) (name : String) : List String :=
  name :: packages.map fun package => package ++ "." ++ name

/-- Why a class is not fit for a type. -/
def fault? (target : OptionType) (entry : RegisteredClass) : Option ValueFault :=
  match target with
  | .element (.classRef (some bound)) =>
      if entry.isSubtypeOf bound then none else some (.noSubtype entry.name bound)
  | .element (.factory interface) =>
      if (entry.product? interface).isSome then none else some (.noFactory entry.name interface)
  | _ => none

def convert (catalog : ClassCatalog) (context : ConversionContext) (text : String)
    (target : OptionType) : Conversion :=
  match catalog.findFirst? (candidates (packages context) text) with
  | none => .error (context.invalid text .unknownClass)
  | some entry =>
      if target.key = .classRef ∨ target.key = .factory then
        match fault? target entry with
        | some fault => .error (context.invalid text fault)
        | none => .ok (.classRef entry)
      else .error (context.unsupported (.wrongTarget converterName target))

end TypedOptions.Classes
