import TypedOptions.Number.Integer
import TypedOptions.Text.Alphabetic
import TypedOptions.Text.Blank

/-!
# Time spans

A time span is a whole number of a unit.  Conversion to a coarser unit
truncates toward zero, conversion to a finer one stops at the ends of the
64-bit range.  Microseconds and days are written but not read.
-/

namespace TypedOptions

inductive TimeUnit where
  | nanoseconds
  | microseconds
  | milliseconds
  | seconds
  | minutes
  | hours
  | days
  deriving DecidableEq, Repr

namespace TimeUnit

def all : List TimeUnit :=
  [.nanoseconds, .microseconds, .milliseconds, .seconds, .minutes, .hours, .days]

/-- The units of option values. -/
def readable : List TimeUnit :=
  [.nanoseconds, .milliseconds, .seconds, .minutes, .hours]

def suffix : TimeUnit → String
  | .nanoseconds => "ns"
  | .microseconds => "us"
  | .milliseconds => "ms"
  | .seconds => "s"
  | .minutes => "min"
  | .hours => "h"
  | .days => "d"

def ofSuffix? (suffix : String) : Option TimeUnit :=
  readable.find? fun unit => unit.suffix == suffix

/-- How many nanoseconds the unit has. -/
def nanos : TimeUnit → Int
  | .nanoseconds => 1
  | .microseconds => 1000
  | .milliseconds => 1000000
  | .seconds => 1000000000
  | .minutes => 60000000000
  | .hours => 3600000000000
  | .days => 86400000000000

instance : Ord TimeUnit where
  compare first second := compare first.nanos second.nanos

/-- The number of units `target` in `value` units `source`. -/
def convert (target : TimeUnit) (value : Int64) (source : TimeUnit) : Int64 :=
  if target.nanos ≤ source.nanos then
    Int64.ofInt (IntegerRange.long.clamp (value.toInt * (source.nanos / target.nanos)))
  else
    Int64.ofInt (value.toInt.tdiv (target.nanos / source.nanos))

theorem nanos_pos (unit : TimeUnit) : 0 < unit.nanos := by
  cases unit <;> decide

end TimeUnit

structure TimeSpan where
  span : Int64
  unit : TimeUnit
  deriving DecidableEq, Repr

inductive TimeSpanError where
  | unknownUnit (text : String)
  | malformed (text : String) (cause : IntegerError)
  deriving DecidableEq, Repr

def TimeSpanError.message : TimeSpanError → String
  | .unknownUnit text => s!"Invalid time unit in '{text}'"
  | .malformed text cause => s!"Invalid time span '{text}': {cause.message}"

namespace TimeSpan

def empty : TimeSpan :=
  ⟨0, .seconds⟩

def asUnit (t : TimeSpan) (unit : TimeUnit) : Int64 :=
  unit.convert t.span t.unit

/-- The length in nanoseconds, zero for a negative span. -/
def duration (t : TimeSpan) : Nat :=
  (t.asUnit .nanoseconds).toInt.toNat

def toText (t : TimeSpan) : String :=
  toString t.span.toInt ++ t.unit.suffix

/-- The part before the letters at the end, and these letters, both trimmed. -/
def splitUnit (text : List Char) : List Char × List Char :=
  let letters := (text.reverse.takeWhile Text.isAlphabetic).reverse
  let number := (text.reverse.dropWhile Text.isAlphabetic).reverse
  (Text.trim number, Text.trim letters)

/-- A number with a unit; a bare number counts seconds. -/
def read (text : String) : Except TimeSpanError TimeSpan :=
  let value := Text.trim text.toList
  let (number, suffix) := splitUnit value
  let unit? := if suffix = [] then some TimeUnit.seconds
    else TimeUnit.ofSuffix? (String.ofList suffix)
  match unit? with
  | none => .error (.unknownUnit (String.ofList value))
  | some unit =>
      match readInteger .long number with
      | .ok span => .ok ⟨Int64.ofInt span, unit⟩
      | .error cause => .error (.malformed (String.ofList value) cause)

end TimeSpan

end TypedOptions
