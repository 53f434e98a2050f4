import TypedOptions.Configuration
import TypedOptions.Declaration.Check
import TypedOptions.Log
import TypedOptions.Regex.Matching
import TypedOptions.Text.Case

/-!
# From settings to values

The text of a setting is checked as it was given, brought to upper case where
that is asked for, and converted, the elements of a collection one by one.
An option that is not set has its default converted.
-/

namespace TypedOptions

namespace OptionDeclaration

variable {τ : Type}

/-- What forbids the text as it was given. -/
def textFault? (option : OptionDeclaration τ) (expression? : Option Regex) (text : String) :
    Option ValueFault :=
  if option.allowed ≠ [] ∧ text ∉ option.allowed then some (.notAllowed option.allowed)
  else if expression?.any fun expression => !expression.isMatch text then
    some (.noMatch (option.pattern?.getD ""))
  else none

/-- The text that is converted.  Constants are written in upper case. -/
def convertedText (option : OptionDeclaration τ) (text : String) : String :=
  if option.toUppercase || option.optionType.elementType.isEnumeration then Text.uppercase text
  else text

/-- The pieces of a text that stand for the elements of a collection. -/
def elementTexts (text : String) : List String :=
  (((Text.splitAll ',' text.toList).map Text.trim).filter (· ≠ [])).map String.ofList

/-- Converts a text to a value of the type of the option with the conversion of its elements. -/
def convertText (option : OptionDeclaration τ) (convert : String → OptionType → Conversion)
    (text : String) : Conversion :=
  let element := option.optionType.elementType
  match option.optionType.collectionKind? with
  | none => convert text element
  | some kind => do
      let items ← (elementTexts text).mapM fun piece => convert piece element
      return .collection (if kind.dropsDuplicates then Value.dropEqual items else items)

end OptionDeclaration

/-- What injections know apart from the object and the declaration. -/
structure Surroundings where
  config : Configuration
  registries : Registries

namespace Surroundings

def registry (given : Surroundings) : Registry :=
  given.registries.get given.config.registry

def converter (given : Surroundings) (option : OptionDeclaration τ) : Converter :=
  given.config.converter given.registry option.annotations.head? option.optionType.elementType.key

def context (option : OptionDeclaration τ) (name : String) (source? : Option OptionSource) :
    ConversionContext :=
  ⟨name, option.annotations.head?, source?⟩

/-- The value of a setting. -/
def convert (given : Surroundings) (option : OptionDeclaration τ) (name : String)
    (expression? : Option Regex) (setting : FoundValue) : Logged OptionError Value :=
  match option.textFault? expression? setting.value with
  | some fault => .fail (.configuration (.value setting.value name fault))
  | none => do
      let text := option.convertedText setting.value
      if given.config.exportsUsed then
        Logged.log (.used name text)
      let context := context option name setting.source?
      let conversion :=
        (given.converter option).convert given.registries.resources context
      Logged.ofExcept (option.convertText conversion text)

/-- The value of an option that is not set. -/
def convertDefault (given : Surroundings) (option : OptionDeclaration τ) (name : String)
    (default : Value) : Conversion :=
  (given.converter option).convertDefault (context option name none) default option.optionType

/-- The value that is to be written, none if a setter is not to be called. -/
def value? (given : Surroundings) (option : OptionDeclaration τ) (name : String)
    (expression? : Option Regex) (chosen? : Option FoundValue) (default? : Option Value) :
    Logged OptionError (Option Value) :=
  match chosen? with
  | some setting =>
      if !option.isSecure && given.registry.isSecure then
        .fail (.configuration (.insecure name))
      else some <$> given.convert option name expression? setting
  | none =>
      if option.isRequired then .fail (.configuration (.missing name))
      else
        match default? with
        | some default => .ofExcept ((given.convertDefault option name default).map some)
        | none => pure none

end Surroundings

end TypedOptions
