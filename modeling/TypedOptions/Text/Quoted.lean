import TypedOptions.Text.QuotedTable

/-!
# Quoted texts

A quoted text stands between double quotes.  Quotes and backslashes are
marked with a backslash, and characters that do not show are written by
their codes.
-/

namespace TypedOptions.Text

def hexDigits (code : Nat) : List Char :=
  Nat.toDigits 16 code

def quoteChar (c : Char) : List Char :=
  match c with
  | '\x00' => ['\\', '0']
  | '\t' => ['\\', 't']
  | '\n' => ['\\', 'n']
  | '\r' => ['\\', 'r']
  | '"' => ['\\', '"']
  | '\\' => ['\\', '\\']
  | c =>
      if unshownTable.contains c then ['\\', 'u', '\x7b'] ++ hexDigits c.toNat ++ ['\x7d']
      else [c]

def quote (text : String) : String :=
  String.ofList ('"' :: text.toList.flatMap quoteChar ++ ['"'])

/-- Quoted texts between brackets, separated by commas. -/
def quoteList (opening closing : Char) (texts : List String) : String :=
  opening.toString ++ String.intercalate ", " (texts.map quote) ++ closing.toString

end TypedOptions.Text
