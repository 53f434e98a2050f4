import TypedOptions.Converter.Classes
import TypedOptions.Converter.Files
import TypedOptions.Converter.Plain
import TypedOptions.Converter.Ranged

/-!
# Converters

A converter makes values of texts and may replace the default of an option
that is not set.  Programs can add converters of their own to the built-in
ones.
-/

namespace TypedOptions

/-- Registries are known by name. -/
abbrev RegistryId := String

/-- A converter that is not built in. -/
structure CustomConverter where
  name : String
  convert : ConversionContext → String → OptionType → Conversion
  convertDefault : ConversionContext → Value → OptionType → Conversion

inductive Converter where
  | plain
  | integer
  | timeSpan
  /-- Classes are looked for among those of a registry. -/
  | classes (registry : RegistryId)
  | files (converter : FileConverter)
  | custom (converter : CustomConverter)

/-- What converters find where they are used. -/
structure Resources where
  catalogs : RegistryId → ClassCatalog
  sizeLimit : Regex.SizeLimit

namespace Converter

def name : Converter → String
  | .plain => Plain.converterName
  | .integer => RangedInteger.converterName
  | .timeSpan => RangedSpan.converterName
  | .classes _ => Classes.converterName
  | .files _ => FileConverter.converterName
  | .custom converter => converter.name

/-- Whether the converter is one of the library's own. -/
def isBuiltIn : Converter → Bool
  | .custom _ => false
  | _ => true

def convert (converter : Converter) (resources : Resources)
    (context : ConversionContext) (text : String) (target : OptionType) : Conversion :=
  match converter with
  | .plain => Plain.convert resources.sizeLimit context text target
  | .integer => RangedInteger.convert context text target
  | .timeSpan => RangedSpan.convert context text target
  | .classes registry => Classes.convert (resources.catalogs registry) context text target
  | .files converter => converter.convert context text target
  | .custom converter => converter.convert context text target

def convertDefault (converter : Converter) (context : ConversionContext) (value : Value)
    (target : OptionType) : Conversion :=
  match converter with
  | .files converter => converter.convertDefault context value
  | .custom converter => converter.convertDefault context value target
  | _ => .ok value

end Converter

end TypedOptions
