import TypedOptions.Error
import TypedOptions.Settings
import TypedOptions.Value.Basic

/-!
# What a conversion knows

A converter gets the text of an option, or of one element of it, along with
the option's name, its annotation and the source of the text.
-/

namespace TypedOptions

structure ConversionContext where
  option : String
  annotation? : Option Annotation
  source? : Option OptionSource

namespace ConversionContext

def invalid (context : ConversionContext) (shown : String) (fault : ValueFault) : OptionError :=
  .configuration (.value shown context.option fault)

def unsupported (context : ConversionContext) (fault : DeclarationFault) : OptionError :=
  .declaration context.option fault

end ConversionContext

abbrev Conversion := Except OptionError Value

end TypedOptions
