import TypedOptions.Key
import TypedOptions.Number.Integer
import TypedOptions.TimeSpan

/-!
# Annotations of options

An annotation refines how the text of an option is understood: the range of
an integer, the units of a time span, the role of a file, or the packages in
which a class is looked for.
-/

namespace TypedOptions

/-- What a path option names. -/
inductive FileKind where
  | outputFile
  | outputDirectory
  | requiredInput
  | optionalInput
  deriving DecidableEq, Repr

/-- Whether the program writes the file or directory. -/
def FileKind.isOutput : FileKind → Bool
  | .outputFile => true
  | .outputDirectory => true
  | _ => false

/-- Bounds on 64-bit integers, both included. -/
structure LongRange where
  least : Int64
  greatest : Int64
  deriving DecidableEq, Repr

namespace LongRange

def all : LongRange :=
  ⟨Int64.minValue, Int64.maxValue⟩

def contains (range : LongRange) (value : Int64) : Bool :=
  range.least ≤ value && value ≤ range.greatest

theorem contains_iff {range : LongRange} {value : Int64} :
    range.contains value = true ↔
      range.least.toInt ≤ value.toInt ∧ value.toInt ≤ range.greatest.toInt := by
  simp [contains, Int64.le_iff_toInt_le]

end LongRange

structure SpanAnnotation where
  /-- The unit of integer fields and of the range. -/
  codeUnit : TimeUnit
  /-- The unit of a number without unit. -/
  userUnit : TimeUnit
  range : LongRange
  deriving DecidableEq, Repr

inductive Annotation where
  | integer (range : LongRange)
  | timeSpan (span : SpanAnnotation)
  | file (kind : FileKind)
  /-- Packages to look for a class in, besides its plain name. -/
  | classes (packages : List String)
  deriving DecidableEq, Repr

def Annotation.kind : Annotation → AnnotationKind
  | .integer _ => .integer
  | .timeSpan _ => .timeSpan
  | .file _ => .file
  | .classes _ => .classes

end TypedOptions
