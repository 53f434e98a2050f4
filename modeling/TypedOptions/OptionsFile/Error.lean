import TypedOptions.FileSystem.Basic

/-!
# Faults of option files

A file is refused at the first line that breaks a rule, or because it or a
file that it includes cannot be read.
-/

namespace TypedOptions

inductive LineFault where
  | illegalKey
  | illegalSection
  | missingSeparator
  | tooShort
  | illegalDirective
  | missingInclude
  | duplicateOption
  | circularInclusion
  deriving DecidableEq, Repr

def LineFault.name : LineFault → String
  | .illegalKey => "IllegalKey"
  | .illegalSection => "IllegalSection"
  | .missingSeparator => "MissingSeparator"
  | .tooShort => "LineTooShort"
  | .illegalDirective => "IllegalDirective"
  | .missingInclude => "MissingInclude"
  | .duplicateOption => "DuplicateOption"
  | .circularInclusion => "CircularInclusion"

def LineFault.message : LineFault → String
  | .illegalKey => "Illegal character in option name"
  | .illegalSection => "Illegal character in section name"
  | .missingSeparator => "Missing key-value separator"
  | .tooShort => "Line too short to contain an option"
  | .illegalDirective => "Illegal parser directive"
  | .missingInclude => "Include without filename"
  | .duplicateOption => "Duplicate option"
  | .circularInclusion => "Circular inclusion of file"

inductive OptionsFileError where
  | line (fault : LineFault) (source : String) (number : Nat) (text : String)
  | unreadableInclude (path : Path) (source : String) (number : Nat) (cause : FileError)
  | unreadableFile (path : Path) (cause : FileError)
  deriving DecidableEq, Repr

def OptionsFileError.message : OptionsFileError → String
  | .line fault source number text => s!"{fault.message} in line {number} of {source}: {text}"
  | .unreadableInclude path source number cause =>
      s!"Cannot read included file {path.text} (line {number} of {source}): {cause.message}"
  | .unreadableFile path cause => s!"Cannot read option file {path.text}: {cause.message}"

end TypedOptions
