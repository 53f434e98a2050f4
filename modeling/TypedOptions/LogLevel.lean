import TypedOptions.Number.Integer
import TypedOptions.Text.Ascii

/-!
# Levels of log messages

Levels run from errors, the least talkative, to traces.  A level is written
by name in any case or by its number from one to five.
-/

namespace TypedOptions

inductive LogLevel where
  | error
  | warn
  | info
  | debug
  | trace
  deriving DecidableEq, Repr

namespace LogLevel

def all : List LogLevel :=
  [.error, .warn, .info, .debug, .trace]

def name : LogLevel → String
  | .error => "ERROR"
  | .warn => "WARN"
  | .info => "INFO"
  | .debug => "DEBUG"
  | .trace => "TRACE"

/-- How talkative the level is. -/
def rank : LogLevel → Nat
  | .error => 1
  | .warn => 2
  | .info => 3
  | .debug => 4
  | .trace => 5

/-- A number may carry a plus sign and leading zeros. -/
def ofNumber? (text : String) : Option LogLevel :=
  match readInteger ⟨0, 5⟩ text.toList with
  | .ok number => all.find? fun level => (level.rank : Int) == number
  | .error _ => none

def ofName? (text : String) : Option LogLevel :=
  all.find? fun level => level.name == Text.asciiUpper text

def read? (text : String) : Option LogLevel :=
  (ofNumber? text).or (ofName? text)

theorem read?_name (level : LogLevel) : read? level.name = some level := by
  cases level <;> decide

end LogLevel

end TypedOptions
