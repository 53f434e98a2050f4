import TypedOptions.Converter.Basic

/-!
# Sample converters

Small converters that show what a conversion gets to know and that its
result may have any shape.
-/

namespace TypedOptions.CustomConverter

/-- Yields one value whatever the text. -/
def constant (value : Value) : CustomConverter where
  name := "Constant"
  convert _ _ _ := .ok value
  convertDefault _ default _ := .ok default

def describeContext (context : ConversionContext) (text : String) (target : OptionType) : String :=
  let annotation := (context.annotation?.map fun annotation => annotation.kind.name).getD "-"
  let source := (context.source?.map OptionSource.text).getD "-"
  String.intercalate "|" [context.option, annotation, source, text, target.key.name]

/-- Yields what the conversion knows. -/
def describing : CustomConverter where
  name := "Describe"
  convert context text target := .ok (.string (describeContext context text target))
  convertDefault _ default _ := .ok default

/-- Doubles 32-bit integers, going around at the ends of their range. -/
def doubling : CustomConverter where
  name := "Doubling"
  convert context text _ :=
    match readInt text with
    | .ok value => .ok (.int (value * 2))
    | .error _ => .error (.configuration (.other s!"bad value for {context.option}"))
  convertDefault _ default _ := .ok default

/-- Takes texts as they are and replaces every default. -/
def defaulting (value : Value) : CustomConverter where
  name := "Defaulting"
  convert _ text _ := .ok (.string text)
  convertDefault _ _ _ := .ok value

end TypedOptions.CustomConverter
