import TypedOptions.Path.Normal

/-!
# Places and faults of file systems

A place is given by the names that lead to it from the root.  Reading can
fail in few ways, and each failure has a kind and a text of its own.
-/

namespace TypedOptions

/-- The names that lead from the root to a file or directory. -/
abbrev Location := List String

def Location.path (location : Location) : Path :=
  .ofNames location

inductive FileType where
  | file
  | directory
  | other
  deriving DecidableEq, Repr

def FileType.name : FileType → String
  | .file => "File"
  | .directory => "Directory"
  | .other => "Other"

inductive FileErrorKind where
  | notFound
  | notADirectory
  | invalidInput
  | invalidData
  | invalidFilename
  deriving DecidableEq, Repr

def FileErrorKind.name : FileErrorKind → String
  | .notFound => "NotFound"
  | .notADirectory => "NotADirectory"
  | .invalidInput => "InvalidInput"
  | .invalidData => "InvalidData"
  | .invalidFilename => "InvalidFilename"

/-- The greatest size of an option file, in bytes. -/
def maxFileSize : Nat := 10485760

inductive FileError where
  | absent (path : Path)
  | noSuchFile
  | notADirectory
  | nameTooLong
  | nulInName
  | isDirectory (path : Path)
  | tooLarge (size : Nat)
  | notText
  | noProjectDirectory
  deriving DecidableEq, Repr

namespace FileError

def kind : FileError → FileErrorKind
  | .absent _ => .notFound
  | .noSuchFile => .notFound
  | .notADirectory => .notADirectory
  | .nameTooLong => .invalidFilename
  | .nulInName => .invalidInput
  | .isDirectory _ => .invalidInput
  | .tooLarge _ => .invalidData
  | .notText => .invalidData
  | .noProjectDirectory => .notFound

def message : FileError → String
  | .absent path => s!"{path.text} does not exist"
  | .noSuchFile => "No such file or directory (os error 2)"
  | .notADirectory => "Not a directory (os error 20)"
  | .nameTooLong => "File name too long (os error 36)"
  | .nulInName => "file name contained an unexpected NUL byte"
  | .isDirectory path => s!"{path.text} is a directory"
  | .tooLarge size => s!"Option file too large: {size} bytes (max {maxFileSize} bytes)"
  | .notText => "stream did not contain valid UTF-8"
  | .noProjectDirectory => "failed to determine project directories"

end FileError

end TypedOptions
