/-!
# What converters are chosen by

A converter is chosen by the coarse type of an option or by the kind of its
annotation.  Both have names that appear in messages.
-/

namespace TypedOptions

/-- The coarse type of an option. -/
inductive TypeKey where
  | bool
  | int
  | long
  | double
  | string
  | enumeration
  | charset
  | level
  | pattern
  | rational
  | timeSpan
  | path
  | pathTemplate
  | classRef
  | factory
  | collection
  deriving DecidableEq, Repr

def TypeKey.all : List TypeKey :=
  [.bool, .int, .long, .double, .string, .enumeration, .charset, .level, .pattern, .rational,
    .timeSpan, .path, .pathTemplate, .classRef, .factory, .collection]

def TypeKey.name : TypeKey → String
  | .bool => "Bool"
  | .int => "Int"
  | .long => "Long"
  | .double => "Double"
  | .string => "Str"
  | .enumeration => "Enum"
  | .charset => "Charset"
  | .level => "Level"
  | .pattern => "Pattern"
  | .rational => "Rational"
  | .timeSpan => "TimeSpan"
  | .path => "Path"
  | .pathTemplate => "PathTemplate"
  | .classRef => "Class"
  | .factory => "Factory"
  | .collection => "Collection"

inductive AnnotationKind where
  | integer
  | timeSpan
  | file
  | classes
  deriving DecidableEq, Repr

namespace AnnotationKind

def name : AnnotationKind → String
  | .integer => "IntegerOption"
  | .timeSpan => "TimeSpanOption"
  | .file => "FileOption"
  | .classes => "ClassOption"

/-- The types of options, or of their elements, that may carry the annotation. -/
def applicableTypes : AnnotationKind → List TypeKey
  | .integer => [.int, .long]
  | .timeSpan => [.int, .long, .timeSpan]
  | .file => [.path, .pathTemplate]
  | .classes => [.classRef, .factory]

end AnnotationKind

inductive ConverterKey where
  | type (key : TypeKey)
  | annotated (kind : AnnotationKind)
  deriving DecidableEq, Repr

def ConverterKey.name : ConverterKey → String
  | .type key => key.name
  | .annotated kind => kind.name

end TypedOptions
