import TypedOptions.Regex.Basic
import TypedOptions.Regex.Flags
import TypedOptions.Text.Lines

/-!
# Escapes

A backslash takes the meaning of a punctuation character away or gives one
to a letter: a character by its code, a named set, or a condition.
-/

namespace TypedOptions.Regex

inductive Primitive where
  | literal (c : Char)
  | set (set : CharSet)
  | condition (condition : Assertion)

/-! ### Characters by their codes -/

def hexValue? (c : Char) : Option Nat :=
  if c.isDigit then some (c.toNat - 0x30)
  else if 'a' ≤ c && c ≤ 'f' then some (c.toNat - 0x57)
  else if 'A' ≤ c && c ≤ 'F' then some (c.toNat - 0x37)
  else none

def charOfCode? (code : Nat) : Option Char :=
  if code.isValidChar then some (Char.ofNat code) else none

/-- A fixed number of hexadecimal digits. -/
def readHexDigits? (flags : Flags) (value : Nat) : Nat → List Char → Option (Nat × List Char)
  | 0, text => some (value, text)
  | count + 1, text =>
      match flags.skip text with
      | [] => none
      | c :: rest =>
          match hexValue? c with
          | none => none
          | some digit => readHexDigits? flags (value * 16 + digit) count rest

def readHex? (flags : Flags) (digits : Nat) (text : List Char) :
    Option (Primitive × List Char) := do
  match flags.skip text with
  | '\x7b' :: rest =>
      let (inner, rest) ← flags.inBraces? rest
      let code ← inner.foldlM (fun value c => (hexValue? c).map (value * 16 + ·)) 0
      if inner = [] then none
      return (.literal (← charOfCode? code), rest)
  | rest =>
      let (code, rest) ← readHexDigits? flags 0 digits rest
      if digits = 2 && !flags.unicode && code ≥ 0x80 then none
      return (.literal (← charOfCode? code), rest)

/-! ### Properties -/

/-- What stands before and after the first `!=`. -/
def splitUnequal : List Char → Option (List Char × List Char)
  | [] => none
  | '!' :: '=' :: rest => some ([], rest)
  | c :: rest => (splitUnequal rest).map fun (before, after) => (c :: before, after)

/-- The set that a property's text names, and whether the text asks for all other characters. -/
def propertySet? (text : List Char) : Option (CharSet × Bool) :=
  match splitUnequal text with
  | some (name, value) => (CharSet.ofNameValue? name value).map (·, true)
  | none =>
      match (Text.splitFirst ':' text).or (Text.splitFirst '=' text) with
      | some (name, value) => (CharSet.ofNameValue? name value).map (·, false)
      | none => (CharSet.ofName? text).map (·, false)

def readProperty? (flags : Flags) (negated : Bool) (text : List Char) :
    Option (Primitive × List Char) := do
  let (name, rest) ←
    match flags.skip text with
    | [] => none
    | '\x7b' :: rest => flags.inBraces? rest
    | '\\' :: _ => none
    | c :: rest => some ([c], rest)
  let (set, unequal) ← propertySet? name
  if !flags.unicode then none
  return (.set (← flags.negate? (negated != unequal) (flags.fold set)), rest)

/-! ### Letters and punctuation -/

def isMeta (c : Char) : Bool :=
  ['\\', '.', '+', '*', '?', '(', ')', '|', '[', ']', '\x7b', '\x7d', '^', '$', '#', '&', '-',
    '~'].contains c

/-- Whether a backslash before the character has no meaning of its own. -/
def isEscapable (c : Char) : Bool :=
  isMeta c || (c.toNat < 0x80 && !c.isAlphanum && c != '<' && c != '>')

def isBoundaryNameChar (c : Char) : Bool :=
  c.isAlpha || c == '-'

/-- The rest of a word boundary, which may have a name between braces. -/
def readBoundary? (flags : Flags) (text : List Char) : Option (Primitive × List Char) :=
  let plain := some (Primitive.condition (.wordBoundary flags.word), text)
  match text with
  | '\x7b' :: inner =>
      match flags.skip inner with
      | [] => none
      | c :: _ =>
          if !isBoundaryNameChar c then plain
          else
            match flags.inBraces? inner with
            | some (name, rest) =>
                match String.ofList name with
                | "start" => some (.condition (.wordStart flags.word), rest)
                | "end" => some (.condition (.wordEnd flags.word), rest)
                | "start-half" => some (.condition (.wordStartHalf flags.word), rest)
                | "end-half" => some (.condition (.wordEndHalf flags.word), rest)
                | _ => none
            | none => none
  | _ => plain

/-- What follows a backslash. -/
def readEscape? (flags : Flags) : List Char → Option (Primitive × List Char)
  | [] => none
  | c :: rest =>
      if isEscapable c then some (.literal c, rest)
      else
        match c with
        | 'x' => readHex? flags 2 rest
        | 'u' => readHex? flags 4 rest
        | 'U' => readHex? flags 8 rest
        | 'p' => readProperty? flags false rest
        | 'P' => readProperty? flags true rest
        | 'd' | 'D' | 's' | 'S' | 'w' | 'W' =>
            (flags.shortClass? c).map fun set => (.set set, rest)
        | 'a' => some (.literal '\x07', rest)
        | 'f' => some (.literal '\x0c', rest)
        | 't' => some (.literal '\t', rest)
        | 'n' => some (.literal '\n', rest)
        | 'r' => some (.literal '\r', rest)
        | 'v' => some (.literal '\x0b', rest)
        | 'A' => some (.condition .textStart, rest)
        | 'z' => some (.condition .textEnd, rest)
        | 'b' => readBoundary? flags rest
        | 'B' => some (.condition (.noWordBoundary flags.word), rest)
        | '<' => some (.condition (.wordStart flags.word), rest)
        | '>' => some (.condition (.wordEnd flags.word), rest)
        | _ => none

example : splitUnequal ['a', '!', 'b', '!', '=', 'c'] = some (['a', '!', 'b'], ['c']) := by decide

end TypedOptions.Regex
