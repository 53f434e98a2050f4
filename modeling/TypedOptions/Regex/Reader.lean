import TypedOptions.Number.DoubleReader
import TypedOptions.Regex.Bracket
import TypedOptions.Text.Alphabetic
import TypedOptions.Text.Numeric

/-!
# Reading regular expressions

An expression is read from left to right.  Open groups wait on a stack with
what stood before them.  Every round of the loop takes at least one
character, so the length of the text bounds the number of rounds.
-/

namespace TypedOptions.Regex

/-! ### Sequences and groups -/

/-- An element of a sequence; a change of flags is one that cannot be repeated. -/
inductive Item where
  /-- An expression whose parts are nested to some depth. -/
  | part (expression : Regex) (depth : Nat)
  | flags

def Item.depth : Item → Nat
  | .part _ depth => depth
  | .flags => 0

/-- What stood before an open group, last element first, and the flags that hold again behind
it. -/
structure GroupFrame where
  items : List Item
  alternatives : List (Regex × Nat)
  flags : Flags
  captures : Bool

structure Progress where
  flags : Flags
  /-- The elements of the sequence at hand, last element first. -/
  items : List Item
  /-- The finished alternatives of the group at hand with their depths, last one first. -/
  alternatives : List (Regex × Nat)
  groups : List GroupFrame
  names : List (List Char)

namespace Progress

def initial : Progress :=
  ⟨.initial, [], [], [], []⟩

def push (progress : Progress) (expression : Regex) (depth : Nat) : Progress :=
  { progress with items := .part expression depth :: progress.items }

/-- The depth of parts that stand together; a single part is not nested by that. -/
def depthOf : List Nat → Nat
  | [] => 0
  | [depth] => depth
  | depths => depths.foldl max 0 + 1

/-- The sequence of elements that are given last one first. -/
def sequenceOf (items : List Item) : Regex × Nat :=
  let expression? := items.foldl (fun rest? item =>
    match item, rest? with
    | .part expression _, none => some expression
    | .part expression _, some rest => some (.sequence expression rest)
    | .flags, rest? => rest?) none
  (expression?.getD .empty, depthOf (items.map Item.depth))

/-- The whole group at hand. -/
def group (progress : Progress) : Regex × Nat :=
  let last := sequenceOf progress.items
  (progress.alternatives.foldl (fun rest (earlier, _) => .alternative earlier rest) last.1,
    depthOf (last.2 :: progress.alternatives.map (·.2)))

def alternate (progress : Progress) : Progress :=
  { progress with
    items := []
    alternatives := sequenceOf progress.items :: progress.alternatives }

def openGroup (progress : Progress) (flags : Flags) (captures : Bool) : Progress :=
  { progress with
    flags
    items := []
    alternatives := []
    groups := ⟨progress.items, progress.alternatives, progress.flags, captures⟩ ::
      progress.groups }

def closeGroup? (progress : Progress) : Option Progress :=
  match progress.groups with
  | [] => none
  | frame :: groups =>
      let (inner, depth) := progress.group
      let expression := if frame.captures then .capture inner else inner
      some { progress with
        flags := frame.flags
        items := .part expression (depth + 1) :: frame.items
        alternatives := frame.alternatives
        groups }

def repeat? (progress : Progress) (least : Nat) (greatest? : Option Nat) : Option Progress :=
  match progress.items with
  | .part body depth :: items =>
      some { progress with
        items := .part (.repetition body least greatest?) (depth + 1) :: items }
  | _ => none

end Progress

/-! ### Repetitions -/

def dropLazyMark : List Char → List Char
  | '?' :: rest => rest
  | text => text

/-- A number of repetitions, with white space around it. -/
def readCount? (flags : Flags) (text : List Char) : Option Nat × List Char :=
  let (digits, rest) := flags.digits (Text.trimStart text)
  (if digits = [] then none else Double.digitsValue? digits, Text.trimStart rest)

def maxCount : Nat := 4294967295

/-- Bounds behind an opening brace, the least and the greatest number of repetitions, up to the
closing brace. -/
def readBounds? (flags : Flags) (text : List Char) :
    Option ((Nat × Option Nat) × List Char) := do
  let (least?, rest) := readCount? flags (flags.skip text)
  let least ← least?
  let (greatest?, rest) ←
    match rest with
    | ',' :: after =>
        match flags.skip after with
        | '\x7d' :: rest => some (none, '\x7d' :: rest)
        | after =>
            let (greatest?, rest) := readCount? flags after
            greatest?.map fun greatest => (some greatest, rest)
    | rest => some (some least, rest)
  if least > maxCount || greatest?.any fun greatest => greatest > maxCount || greatest < least
    then none
  match rest with
  | '\x7d' :: rest => return ((least, greatest?), rest)
  | _ => none

/-! ### Groups and flags -/

/-- Flags up to a colon or a closing parenthesis: the flags as they are changed, whether any was
named, and what ended them. -/
def readFlags? (flags : Flags) (on : Bool) (seen : List Char) :
    List Char → Option (Flags × Bool × Char × List Char)
  | [] => none
  | c :: rest =>
      if c == ':' || c == ')' then
        if seen.head? == some '-' then none else some (flags, !seen.isEmpty, c, rest)
      else if seen.contains c then none
      else if c == '-' then readFlags? flags false ('-' :: seen) rest
      else if ['i', 'm', 's', 'R', 'U', 'u', 'x'].contains c then
        readFlags? (flags.set c on) on (c :: seen) rest
      else none

def isNameStart (c : Char) : Bool :=
  c == '_' || Text.isAlphabetic c

def isNamePart (c : Char) : Bool :=
  c == '_' || c == '.' || c == '[' || c == ']' || Text.isAlphabetic c || Text.isNumeric c

/-- A group with a name that no earlier group has. -/
def readNamedGroup? (progress : Progress) (text : List Char) : Option (Progress × List Char) := do
  let (name, rest) ← Text.splitFirst '>' text
  match name with
  | [] => none
  | first :: more =>
      if isNameStart first && more.all isNamePart && !progress.names.contains name then
        let progress := { progress with names := name :: progress.names }
        return (progress.openGroup progress.flags true, rest)
      else none

/-- What follows an opening parenthesis. -/
def readGroup? (progress : Progress) (text : List Char) : Option (Progress × List Char) :=
  match progress.flags.skip text with
  | '?' :: '=' :: _ => none
  | '?' :: '!' :: _ => none
  | '?' :: '<' :: '=' :: _ => none
  | '?' :: '<' :: '!' :: _ => none
  | '?' :: 'P' :: '<' :: rest => readNamedGroup? progress rest
  | '?' :: '<' :: rest => readNamedGroup? progress rest
  | '?' :: rest =>
      match readFlags? progress.flags true [] rest with
      | some (flags, _, ':', rest) => some (progress.openGroup flags false, rest)
      | some (flags, true, _, rest) =>
          some ({ progress with flags, items := .flags :: progress.items }, rest)
      | _ => none
  | rest => some (progress.openGroup progress.flags true, rest)

/-! ### Expressions -/

def Flags.startLine (flags : Flags) : Assertion :=
  if !flags.multiLine then .textStart else if flags.crlf then .lineStartCrlf else .lineStart

def Flags.endLine (flags : Flags) : Assertion :=
  if !flags.multiLine then .textEnd else if flags.crlf then .lineEndCrlf else .lineEnd

def Flags.dot? (flags : Flags) : Option CharSet :=
  if !flags.unicode then none
  else if flags.dotAll then some .any
  else if flags.crlf then some (.complement (.union (.single '\r') (.single '\n')))
  else some (.complement (.single '\n'))

def Flags.primitive (flags : Flags) : Primitive → Regex
  | .literal c => .char (if flags.allows c then flags.fold (.single c) else .single c)
  | .set set => .char set
  | .condition condition => .assert condition

def readNext? (progress : Progress) : List Char → Option (Progress × List Char)
  | [] => none
  | '(' :: rest => readGroup? progress rest
  | ')' :: rest => progress.closeGroup?.map (·, rest)
  | '|' :: rest => some (progress.alternate, rest)
  | '[' :: rest =>
      (readBracket? progress.flags rest).map fun (set, depth, rest) =>
        (progress.push (.char set) depth, rest)
  | '?' :: rest => (progress.repeat? 0 (some 1)).map (·, dropLazyMark rest)
  | '*' :: rest => (progress.repeat? 0 none).map (·, dropLazyMark rest)
  | '+' :: rest => (progress.repeat? 1 none).map (·, dropLazyMark rest)
  | '\x7b' :: rest => do
      let ((least, greatest?), rest) ← readBounds? progress.flags rest
      let progress ← progress.repeat? least greatest?
      return (progress, dropLazyMark (progress.flags.skip rest))
  | '\\' :: rest =>
      (readEscape? progress.flags rest).map fun (primitive, rest) =>
        (progress.push (progress.flags.primitive primitive) 0, rest)
  | '.' :: rest => progress.flags.dot?.map fun set => (progress.push (.char set) 0, rest)
  | '^' :: rest => some (progress.push (.assert progress.flags.startLine) 0, rest)
  | '$' :: rest => some (progress.push (.assert progress.flags.endLine) 0, rest)
  | c :: rest => some (progress.push (progress.flags.primitive (.literal c)) 0, rest)

/-- The expression that is read in at most a number of rounds, with its depth. -/
def readFrom? : Nat → Progress → List Char → Option (Regex × Nat)
  | 0, _, _ => none
  | rounds + 1, progress, text =>
      match progress.flags.skip text with
      | [] => if progress.groups.isEmpty then some progress.group else none
      | text =>
          match readNext? progress text with
          | none => none
          | some (progress, rest) => readFrom? rounds progress rest

/-- The greatest depth to which parts of an expression may be nested. -/
def maxDepth : Nat := 250

/-- Whether an engine can build what it needs to search for the expression of a text.  How much
that is, and how much is too much, is up to the engine. -/
abbrev SizeLimit := String → Bool

/-- The expression that a text writes, unless it is ill-formed, too deep or too large. -/
def read? (limit : SizeLimit) (text : String) : Option Regex :=
  let chars := text.toList
  match readFrom? (chars.length + 1) .initial chars with
  | some (expression, depth) =>
      if depth ≤ maxDepth && limit text then some expression else none
  | none => none

def isExpression (limit : SizeLimit) (text : String) : Bool :=
  (read? limit text).isSome

end TypedOptions.Regex
