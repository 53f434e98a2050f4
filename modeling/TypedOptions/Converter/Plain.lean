import TypedOptions.Converter.Context
import TypedOptions.Number.DoubleReader
import TypedOptions.Regex.Reader
import TypedOptions.Text.Ascii

/-!
# Plain values

Booleans, numbers, texts, constants, character sets, levels, expressions,
rationals and time spans are read without an annotation.  Paths and classes
are not.
-/

namespace TypedOptions

namespace Plain

def converterName : String := "BaseTypeConverter"

def readBool? (text : String) : Option Bool :=
  match Text.asciiLower text with
  | "true" => some true
  | "false" => some false
  | _ => none

/-- Reads an element, or tells what is wrong with the text. -/
def readElement (limit : Regex.SizeLimit) (text : String) : ElementType → Except ValueFault Value
  | .bool =>
      match readBool? text with
      | some value => .ok (.bool value)
      | none => .error .noBool
  | .int => ((readInt text).map .int).mapError .integer
  | .long => ((readLong text).map .long).mapError .integer
  | .double => ((Double.read text).map .double).mapError .double
  | .string => .ok (.string text)
  | .enumeration constants =>
      if text ∈ constants.constants then .ok (.constant text) else .error (.noConstant constants)
  | .charset => ((Charset.ofName text).map .charset).mapError .charset
  | .level =>
      match LogLevel.read? text with
      | some level => .ok (.level level)
      | none => .error .noLevel
  | .pattern => if Regex.isExpression limit text then .ok (.pattern ⟨text⟩) else .error .noPattern
  | .rational => ((Rational.read text).map .rational).mapError .rational
  | .timeSpan => ((TimeSpan.read text).map .timeSpan).mapError .timeSpan
  | .path => .ok .absent
  | .pathTemplate => .ok .absent
  | .classRef _ => .ok .absent
  | .factory _ => .ok .absent

def convert (limit : Regex.SizeLimit) (context : ConversionContext) (text : String)
    (target : OptionType) : Conversion :=
  match target with
  | .element .path => .error (context.unsupported .unannotatedPath)
  | .element .pathTemplate => .error (context.unsupported .unannotatedPath)
  | .element (.classRef _) => .error (context.unsupported (.wrongTarget converterName target))
  | .element (.factory _) => .error (context.unsupported (.wrongTarget converterName target))
  | .collection _ _ => .error (context.unsupported (.wrongTarget converterName target))
  | .element type =>
      match readElement limit text type with
      | .ok value => .ok value
      | .error (.rational .overflow) => .error .overflow
      | .error fault => .error (context.invalid text fault)

end Plain

end TypedOptions
