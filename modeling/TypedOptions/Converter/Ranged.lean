import TypedOptions.Converter.Context

/-!
# Integers and time spans within bounds

An integer annotation bounds the number.  A time span annotation tells the
unit of a number without unit and the unit in which an integer field counts;
its bounds apply to the number of these units.
-/

namespace TypedOptions

/-- A number as a 32-bit integer, if it is small enough. -/
def toInt? (value : Int64) : Option Int32 :=
  if IntegerRange.int.Contains value.toInt then some (Int32.ofInt value.toInt) else none

namespace RangedInteger

def converterName : String := "IntegerTypeConverter"

def rangeOf (context : ConversionContext) : Except OptionError LongRange :=
  match context.annotation? with
  | some (.integer range) => .ok range
  | some annotation =>
      .error (context.unsupported (.wrongAnnotationKind converterName annotation.kind))
  | none => .ok .all

def convert (context : ConversionContext) (text : String) (target : OptionType) : Conversion := do
  let range ← rangeOf context
  let number ← (readLong text).mapError fun cause => context.invalid text (.integer cause)
  if !range.contains number then
    throw (context.invalid text (.outsideRange range))
  match target with
  | .element .int =>
      match toInt? number with
      | some value => return .int value
      | none => throw (context.invalid text .tooLargeForInt)
  | .element .long => return .long number
  | _ => throw (context.unsupported (.wrongTarget converterName target))

end RangedInteger

namespace RangedSpan

def converterName : String := "TimeSpanTypeConverter"

/-- The number and the unit that a text writes. -/
def readSpan (userUnit : TimeUnit) (text : String) : Except ValueFault TimeSpan :=
  let (number, suffix) := TimeSpan.splitUnit text.toList
  if !number.any Char.isDigit then .error .noNumber
  else
    let unit? := if suffix = [] then some userUnit else TimeUnit.ofSuffix? (String.ofList suffix)
    match unit? with
    | none => .error (.unknownUnit (String.ofList suffix))
    | some unit =>
        match readInteger .long number with
        | .ok span => .ok ⟨Int64.ofInt span, unit⟩
        | .error cause => .error (.integer cause)

def convert (context : ConversionContext) (text : String) (target : OptionType) : Conversion :=
  match context.annotation? with
  | some (.timeSpan rule) => do
      let span ← (readSpan rule.userUnit text).mapError (context.invalid text)
      let number := span.asUnit rule.codeUnit
      if !rule.range.contains number then
        throw (context.invalid text (.outsideSpanRange rule.range rule.codeUnit))
      match target with
      | .element .int =>
          match toInt? number with
          | some value => return .int value
          | none => throw (context.invalid text .tooLargeForInt)
      | .element .long => return .long number
      | .element .timeSpan => return .timeSpan span
      | _ => throw (context.unsupported (.wrongTarget converterName target))
  | _ => .error (context.unsupported .unannotatedSpan)

end RangedSpan

end TypedOptions
