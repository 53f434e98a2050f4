import TypedOptions.Text.Ascii

/-!
# Character sets

A character set is named by its canonical name or by an alias, in any case.
A name of the wrong form is told apart from one that is merely unknown.
-/

namespace TypedOptions

inductive Charset where
  | utf8
  | utf16
  | utf16be
  | utf16le
  | ascii
  | latin1
  deriving DecidableEq, Repr

inductive CharsetError where
  | illegalName
  | unsupported
  deriving DecidableEq, Repr

namespace Charset

def name : Charset → String
  | .utf8 => "UTF-8"
  | .utf16 => "UTF-16"
  | .utf16be => "UTF-16BE"
  | .utf16le => "UTF-16LE"
  | .ascii => "US-ASCII"
  | .latin1 => "ISO-8859-1"

/-- The known names in upper case. -/
def aliases : List (String × Charset) :=
  [("UTF-8", .utf8), ("UTF8", .utf8), ("UTF-16", .utf16), ("UTF16", .utf16),
    ("UTF-16BE", .utf16be), ("UTF-16LE", .utf16le), ("US-ASCII", .ascii), ("ASCII", .ascii),
    ("ISO-8859-1", .latin1), ("ISO8859-1", .latin1), ("LATIN1", .latin1)]

def isCharsetChar (c : Char) : Bool :=
  c.isAlphanum || c == '-' || c == '+' || c == ':' || c == '_' || c == '.'

/-- The form every name has, known or not. -/
def isLegalName : List Char → Bool
  | [] => false
  | c :: rest => c.isAlphanum && rest.all isCharsetChar

def ofName (text : String) : Except CharsetError Charset :=
  if isLegalName text.toList then
    match aliases.lookup (Text.asciiUpper text) with
    | some charset => .ok charset
    | none => .error .unsupported
  else .error .illegalName

theorem ofName_name (charset : Charset) : ofName charset.name = .ok charset := by
  cases charset <;> rfl

end Charset

end TypedOptions
