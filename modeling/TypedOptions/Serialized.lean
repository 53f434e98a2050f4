import TypedOptions.Charset
import TypedOptions.Rational
import TypedOptions.TimeSpan

/-!
# Stored values

Rationals, time spans, units and character sets are stored as documents of
integers, texts, lists and named fields.  What is read back is taken as it
is: nothing is brought into lowest terms.  A document is written without
blanks, and only quotes, backslashes and control characters are escaped.
-/

namespace TypedOptions

/-- A stored document.  Everything that no stored value consists of is `other`. -/
inductive Document where
  | null
  | bool (value : Bool)
  | integer (value : Int)
  | text (value : String)
  | list (items : List Document)
  | fields (entries : List (String × Document))
  | other

namespace Document

def long? : Document → Option Int64
  | .integer value =>
      if IntegerRange.long.Contains value then some (Int64.ofInt value) else none
  | _ => none

/-- The name of a constant, which may also stand before an empty content. -/
def constantName? : Document → Option String
  | .text name => some name
  | .fields [(name, .null)] => some name
  | _ => none

/-- The two parts of a record with the given field names, written by name or in order. -/
def pair? (first second : String) : Document → Option (Document × Document)
  | .list [before, after] => some (before, after)
  | .fields entries => do
      let before ← entries.lookup first
      let after ← entries.lookup second
      return (before, after)
  | _ => none

/-- How a character stands between quotes. -/
def escaped (c : Char) : String :=
  match c with
  | '"' => "\\\""
  | '\\' => "\\\\"
  | '\n' => "\\n"
  | '\r' => "\\r"
  | '\t' => "\\t"
  | '\x08' => "\\b"
  | '\x0c' => "\\f"
  | c =>
      if c.toNat < 0x20 then
        "\\u00" ++ String.ofList [Nat.digitChar (c.toNat / 16), Nat.digitChar (c.toNat % 16)]
      else c.toString

def quoted (text : String) : String :=
  "\"" ++ String.join (text.toList.map escaped) ++ "\""

mutual

/-- The shortest text that writes the document. -/
def toText : Document → String
  | .bool value => if value then "true" else "false"
  | .integer value => toString value
  | .text value => quoted value
  | .list items => "[" ++ itemsText items ++ "]"
  | .fields entries => "\x7b" ++ entriesText entries ++ "\x7d"
  | _ => "null"

def itemsText : List Document → String
  | [] => ""
  | [item] => toText item
  | item :: next :: rest => toText item ++ "," ++ itemsText (next :: rest)

def entriesText : List (String × Document) → String
  | [] => ""
  | [(name, value)] => quoted name ++ ":" ++ toText value
  | (name, value) :: next :: rest =>
      quoted name ++ ":" ++ toText value ++ "," ++ entriesText (next :: rest)

end

end Document

def TimeUnit.constantName : TimeUnit → String
  | .nanoseconds => "Nanoseconds"
  | .microseconds => "Microseconds"
  | .milliseconds => "Milliseconds"
  | .seconds => "Seconds"
  | .minutes => "Minutes"
  | .hours => "Hours"
  | .days => "Days"

def TimeUnit.toDocument (unit : TimeUnit) : Document :=
  .text unit.constantName

def TimeUnit.ofDocument? (document : Document) : Option TimeUnit := do
  let name ← document.constantName?
  TimeUnit.all.find? fun unit => unit.constantName == name

def Charset.all : List Charset :=
  [.utf8, .utf16, .utf16be, .utf16le, .ascii, .latin1]

def Charset.constantName : Charset → String
  | .utf8 => "Utf8"
  | .utf16 => "Utf16"
  | .utf16be => "Utf16Be"
  | .utf16le => "Utf16Le"
  | .ascii => "UsAscii"
  | .latin1 => "Iso8859_1"

def Charset.toDocument (charset : Charset) : Document :=
  .text charset.constantName

def Charset.ofDocument? (document : Document) : Option Charset := do
  let name ← document.constantName?
  Charset.all.find? fun charset => charset.constantName == name

def Rational.toDocument (value : Rational) : Document :=
  .fields [("den", .integer value.denominator.toInt), ("num", .integer value.numerator.toInt)]

def Rational.ofDocument? (document : Document) : Option Rational := do
  let (numerator, denominator) ← document.pair? "num" "den"
  return ⟨← numerator.long?, ← denominator.long?⟩

def TimeSpan.toDocument (value : TimeSpan) : Document :=
  .fields [("span", .integer value.span.toInt), ("unit", value.unit.toDocument)]

def TimeSpan.ofDocument? (document : Document) : Option TimeSpan := do
  let (span, unit) ← document.pair? "span" "unit"
  return ⟨← span.long?, ← TimeUnit.ofDocument? unit⟩

theorem TimeUnit.ofDocument?_toDocument (unit : TimeUnit) :
    TimeUnit.ofDocument? unit.toDocument = some unit := by
  cases unit <;> rfl

theorem Charset.ofDocument?_toDocument (charset : Charset) :
    Charset.ofDocument? charset.toDocument = some charset := by
  cases charset <;> rfl

end TypedOptions
