import TypedOptions.Charset
import TypedOptions.ClassCatalog
import TypedOptions.LogLevel
import TypedOptions.Number.Shortest
import TypedOptions.Path.Basic
import TypedOptions.PathTemplate
import TypedOptions.Rational
import TypedOptions.TimeSpan

/-!
# Dynamic values of options

Converters yield values of one dynamic type.  Values are compared as the
program sees them: paths by components, classes by name, numbers
numerically.
-/

namespace TypedOptions

/-- A regular expression, known by its text. -/
structure Pattern where
  text : String
  deriving DecidableEq, Repr

inductive Value where
  | absent
  | bool (value : Bool)
  | int (value : Int32)
  | long (value : Int64)
  | double (value : Double)
  | string (value : String)
  /-- A constant of an enumeration by its name. -/
  | constant (name : String)
  | charset (value : Charset)
  | level (value : LogLevel)
  | pattern (value : Pattern)
  | rational (value : Rational)
  | timeSpan (value : TimeSpan)
  | path (value : Path)
  | pathTemplate (value : PathTemplate)
  /-- A class, also where its factory is meant. -/
  | classRef (entry : RegisteredClass)
  | collection (items : List Value)

namespace Value

mutual

def equals : Value → Value → Bool
  | .absent, .absent => true
  | .bool first, .bool second => first == second
  | .int first, .int second => first == second
  | .long first, .long second => first == second
  | .double first, .double second => first.equals second
  | .string first, .string second => first == second
  | .constant first, .constant second => first == second
  | .charset first, .charset second => first == second
  | .level first, .level second => first == second
  | .pattern first, .pattern second => first == second
  | .rational first, .rational second => first == second
  | .timeSpan first, .timeSpan second => first == second
  | .path first, .path second => first.same second
  | .pathTemplate first, .pathTemplate second => first == second
  | .classRef first, .classRef second => first.same second
  | .collection first, .collection second => equalItems first second
  | _, _ => false

def equalItems : List Value → List Value → Bool
  | [], [] => true
  | first :: rest, second :: more => equals first second && equalItems rest more
  | _, _ => false

end

mutual

/-- The text a value is shown with. -/
def text : Value → String
  | .absent => "<none>"
  | .bool value => if value then "true" else "false"
  | .int value => toString value.toInt
  | .long value => toString value.toInt
  | .double value => value.toText
  | .string value => value
  | .constant name => name
  | .charset value => value.name
  | .level value => value.name
  | .pattern value => value.text
  | .rational value => value.toText
  | .timeSpan value => value.toText
  | .path value => value.text
  | .pathTemplate value => value.text
  | .classRef entry => entry.name
  | .collection items => itemsText items

/-- Items are separated by commas. -/
def itemsText : List Value → String
  | [] => ""
  | [item] => text item
  | item :: next :: rest => text item ++ ", " ++ itemsText (next :: rest)

end

/-- The values without those that an earlier one equals. -/
def dropEqual (items : List Value) : List Value :=
  items.foldl (fun kept item => if kept.any (·.equals item) then kept else kept ++ [item]) []

end Value

end TypedOptions
