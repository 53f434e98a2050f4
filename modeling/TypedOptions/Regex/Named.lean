import TypedOptions.Regex.Boundary
import TypedOptions.Regex.Edition

/-!
# Named sets of characters

Sets have names of three kinds: the short classes of digits, blanks and word
characters, the bracketed classes of ASCII, and the properties of the
character standard.  Names of properties are compared in small letters,
without blanks, dashes and underscores.
-/

namespace TypedOptions.CharSet

def ofRanges (ranges : List (Char × Char)) : CharSet :=
  .table (ranges.map fun (first, last) => (first.toNat, last.toNat))

def digit : CharSet := .table Regex.categoryNd

/-- Letters, marks, decimal digits, joining punctuation and join controls. -/
def word : CharSet :=
  uniteAll [alphabetic, categoriesOf 'm', .table Regex.categoryNd, .table Regex.categoryPc,
    .table Regex.joinControlTable]

def asciiDigit : CharSet := ofRanges [('0', '9')]

def asciiBlank : CharSet := ofRanges [('\t', '\r'), (' ', ' ')]

def asciiWord : CharSet := ofRanges [('0', '9'), ('A', 'Z'), ('_', '_'), ('a', 'z')]

/-- The classes that are written between colons. -/
def ofAsciiName? (name : String) : Option CharSet :=
  match name with
  | "alnum" => some (ofRanges [('0', '9'), ('A', 'Z'), ('a', 'z')])
  | "alpha" => some (ofRanges [('A', 'Z'), ('a', 'z')])
  | "ascii" => some ascii
  | "blank" => some (ofRanges [('\t', '\t'), (' ', ' ')])
  | "cntrl" => some (ofRanges [('\x00', '\x1f'), ('\x7f', '\x7f')])
  | "digit" => some asciiDigit
  | "graph" => some (ofRanges [('!', '~')])
  | "lower" => some (ofRanges [('a', 'z')])
  | "print" => some (ofRanges [(' ', '~')])
  | "punct" => some (ofRanges [('!', '/'), (':', '@'), ('[', '\x60'), ('\x7b', '~')])
  | "space" => some asciiBlank
  | "upper" => some (ofRanges [('A', 'Z')])
  | "word" => some asciiWord
  | "xdigit" => some (ofRanges [('0', '9'), ('A', 'F'), ('a', 'f')])
  | _ => none

/-- What counts of a property's name: its characters of ASCII in small letters, without an `is` at
the very beginning. -/
def plainName (name : List Char) : String :=
  let kept (letters : List Char) : List Char :=
    (letters.filter fun c => c.toNat < 0x80 && c != ' ' && c != '-' && c != '_').map Char.toLower
  match name with
  | i :: s :: rest =>
      if (i == 'i' || i == 'I') && (s == 's' || s == 'S') then
        let rest := kept rest
        if rest = ['c'] then "isc" else String.ofList rest
      else String.ofList (kept name)
  | _ => String.ofList (kept name)

/-- The property, the category or the script that has a name. -/
def ofName? (name : List Char) : Option CharSet :=
  let name := plainName name
  (ofPropertyName? name).or ((ofCategoryName? name).or (ofScriptName? name))

/-- A set by a property and one of its values. -/
def ofNameValue? (name value : List Char) : Option CharSet :=
  let value := plainName value
  match plainName name with
  | "gc" | "generalcategory" => ofCategoryName? value
  | "sc" | "script" => ofScriptName? value
  | "scx" | "scriptextensions" => ofUsingScriptName? value
  | "age" => ofEditionName? value
  | "gcb" | "graphemeclusterbreak" => Grapheme.ofName? value
  | "wb" | "wordbreak" => Word.ofName? value
  | "sb" | "sentencebreak" => Sentence.ofName? value
  | _ => none

end TypedOptions.CharSet
