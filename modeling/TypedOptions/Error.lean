import TypedOptions.Annotation
import TypedOptions.Charset
import TypedOptions.CommandLine
import TypedOptions.Number.DoubleReader
import TypedOptions.OptionsFile.Error
import TypedOptions.Rational
import TypedOptions.TimeSpan
import TypedOptions.Value.Type

/-!
# Errors

Errors tell their causes; the wording is given once for each cause.  Those
of the user's making are a wrong value, a missing or forbidden option, or a
wrong argument.  The others are faults of files, of declarations, of setters
or of the order in which a configuration is put together.
-/

namespace TypedOptions

inductive ValueFault where
  | noBool
  | integer (cause : IntegerError)
  | double (cause : DoubleError)
  | noConstant (constants : Enumeration)
  | charset (cause : CharsetError)
  | noLevel
  | noPattern
  | rational (cause : RationalError)
  | timeSpan (cause : TimeSpanError)
  | outsideRange (range : LongRange)
  | outsideSpanRange (range : LongRange) (unit : TimeUnit)
  | tooLargeForInt
  | noNumber
  | unknownUnit (suffix : String)
  | unknownClass
  | noSubtype (name bound : String)
  | noFactory (name : String) (interface : Interface)
  | fileForDirectory
  | directoryForFile
  | unreadable (cause : FileError)
  | notAllowed (allowed : List String)
  | noMatch (pattern : String)
  | refused (message : String)
  deriving DecidableEq

def ValueFault.message : ValueFault → String
  | .noBool => "expected true or false"
  | .integer cause => cause.message
  | .double cause => cause.message
  | .noConstant constants =>
      s!"not a constant of {constants.name}, expected one of " ++
        String.intercalate ", " constants.constants
  | .charset .illegalName => "illegal charset name"
  | .charset .unsupported => "unsupported charset"
  | .noLevel =>
      "error parsing level: expected one of \"error\", \"warn\", \"info\", \"debug\", " ++
        "\"trace\", or a number 1-5"
  | .noPattern => "invalid regular expression:"
  | .rational cause => cause.message
  | .timeSpan cause => cause.message
  | .outsideRange range =>
      s!"must be in range [{range.least.toInt}, {range.greatest.toInt}]"
  | .outsideSpanRange range unit =>
      s!"must be in range [{range.least.toInt}, {range.greatest.toInt}] {unit.suffix}"
  | .tooLargeForInt => "too large for a 32-bit integer option"
  | .noNumber => "time span contains no number"
  | .unknownUnit suffix => s!"time span contains invalid unit '{suffix}'"
  | .unknownClass => "class not found"
  | .noSubtype name bound => s!"class {name} is not a subtype of {bound}"
  | .noFactory name interface => s!"class {name} provides no factory of type {interface.name}"
  | .fileForDirectory => "path is a file instead of a directory"
  | .directoryForFile => "path is a directory instead of a file"
  | .unreadable cause => s!"file does not exist or is not readable: {cause.message}"
  | .notAllowed allowed =>
      "value is not one of the allowed values [" ++ String.intercalate ", " allowed ++ "]"
  | .noMatch pattern => s!"value does not match the pattern {pattern}"
  | .refused message => message

inductive PathFault where
  | absolute
  | notBelow
  deriving DecidableEq, Repr

def PathFault.message : PathFault → String
  | .absolute => "it is absolute"
  | .notBelow => "it is not below the current directory"

inductive ConfigurationFault where
  | illegalName (name : String)
  | rational (cause : RationalError)
  | timeSpan (cause : TimeSpanError)
  | value (shown option : String) (fault : ValueFault)
  | insecure (option : String)
  | missing (option : String)
  | unsafePath (option : String) (path : Path) (fault : PathFault)
  | other (message : String)
  deriving DecidableEq

def ConfigurationFault.message : ConfigurationFault → String
  | .illegalName name => s!"Option name '{name}' contains illegal characters"
  | .rational cause => cause.message
  | .timeSpan cause => cause.message
  | .value shown option fault => s!"Invalid value '{shown}' for option {option}: {fault.message}"
  | .insecure option =>
      s!"Configuration option {option} was specified, but is not allowed in secure mode."
  | .missing option => s!"Required configuration option {option} is missing."
  | .unsafePath option path fault =>
      s!"The option {option} specifies the path '{path.text}' that is forbidden in safe mode " ++
        s!"because {fault.message}."
  | .other message => message

inductive DeclarationFault where
  | illegalName
  | nestedCollection
  | unannotatedPath
  | notApplicable (kind : AnnotationKind) (key : TypeKey)
  | outputNotNullable
  | manyAnnotations (count : Nat)
  | noPattern
  /-- A converter was given an annotation that is not for it. -/
  | wrongAnnotationKind (converter : String) (kind : AnnotationKind)
  | unannotatedSpan
  | wrongTarget (converter : String) (target : OptionType)
  deriving DecidableEq

def DeclarationFault.message : DeclarationFault → String
  | .illegalName => "the name does not follow the option-name grammar"
  | .nestedCollection => "collections of collections are not supported"
  | .unannotatedPath => "path options need a FileOption annotation"
  | .notApplicable kind key => s!"{kind.name} cannot be used with options of type {key.name}"
  | .outputNotNullable => "output file options must be nullable so that output can be disabled"
  | .manyAnnotations count => s!"at most one secondary option is allowed, found {count}"
  | .noPattern => "invalid regular expression:"
  | .wrongAnnotationKind converter kind => s!"{converter} cannot handle {kind.name}"
  | .unannotatedSpan => "TimeSpanTypeConverter needs a TimeSpanOption annotation"
  | .wrongTarget converter target =>
      s!"{converter} cannot produce values of type {target.description}"

inductive SetterFault where
  | wrongShape (shown : String)
  | failed (message : String)
  deriving DecidableEq, Repr

def SetterFault.message : SetterFault → String
  | .wrongShape shown => s!"converted value '{shown}' does not fit type"
  | .failed message => message

inductive BuilderFault where
  | lateCopy
  | notSet (name : String)
  deriving DecidableEq, Repr

def BuilderFault.message : BuilderFault → String
  | .lateCopy => "copy_from must be called before any other builder method"
  | .notSet name => s!"option {name} is not set in the configuration to copy from"

inductive OptionError where
  | file (cause : OptionsFileError)
  | argument (cause : ArgumentError)
  | configuration (fault : ConfigurationFault)
  | declaration (option : String) (fault : DeclarationFault)
  | setter (option : String) (fault : SetterFault)
  | builder (fault : BuilderFault)
  /-- Arithmetic left the 64-bit range, which ends the program. -/
  | overflow
  deriving DecidableEq

namespace OptionError

def message : OptionError → String
  | .file cause => cause.message
  | .argument cause => cause.message
  | .configuration fault => fault.message
  | .declaration option fault => s!"Unsupported declaration of option {option}: {fault.message}"
  | .setter option fault => s!"Unexpected failure while setting option {option}: {fault.message}"
  | .builder fault => s!"Illegal builder state: {fault.message}"
  | .overflow => "arithmetic overflow"

/-- Whether the error is of the user's making. -/
def isUserError : OptionError → Bool
  | .configuration _ => true
  | .argument _ => true
  | _ => false

def ofRational : RationalError → OptionError
  | .overflow => .overflow
  | cause => .configuration (.rational cause)

end OptionError

end TypedOptions
