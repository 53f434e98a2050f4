import TypedOptions.Regex.Escape

/-!
# Bracketed classes

A class holds characters, ranges and other classes between square brackets
and may be combined with another one.  Open brackets and the left sides of
operations wait on a stack.  Besides the set of a class it is counted how
deep its parts are nested.
-/

namespace TypedOptions.Regex

/-- What a class holds so far: its set, the number of its elements, and how deep the deepest of
them is nested. -/
structure ClassBody where
  set : CharSet
  elements : Nat
  deepest : Nat

namespace ClassBody

def nothing : ClassBody :=
  ⟨.nothing, 0, 0⟩

def insert (body : ClassBody) (set : CharSet) (depth : Nat) : ClassBody :=
  ⟨.union body.set set, body.elements + 1, max body.deepest depth⟩

/-- Several elements together are one level deeper than the deepest of them. -/
def depth (body : ClassBody) : Nat :=
  if body.elements ≤ 1 then body.deepest else body.deepest + 1

end ClassBody

inductive SetOperation where
  | intersection
  | difference
  | symmetricDifference

/-- What waits while a class is read. -/
inductive ClassFrame where
  /-- An open bracket, with what the class around it holds so far. -/
  | bracket (outer : ClassBody) (negated : Bool)
  /-- An operation with its left side and the depth of that side. -/
  | operation (operation : SetOperation) (left : CharSet) (depth : Nat)

def Flags.combine (flags : Flags) (operation : SetOperation) (left right : CharSet) : CharSet :=
  let left := flags.fold left
  let right := flags.fold right
  match operation with
  | .intersection => .inter left right
  | .difference => .difference left right
  | .symmetricDifference => .symmetricDifference left right

/-- Completes an operation whose right side has been read; the result has a depth. -/
def Flags.popOperation (flags : Flags) (body : ClassBody) :
    List ClassFrame → (CharSet × Nat) × List ClassFrame
  | .operation operation left depth :: stack =>
      ((flags.combine operation left body.set, max depth body.depth + 1), stack)
  | stack => ((body.set, body.depth), stack)

def Flags.pushOperation (flags : Flags) (operation : SetOperation) (body : ClassBody)
    (stack : List ClassFrame) : List ClassFrame :=
  let ((left, depth), stack) := flags.popOperation body stack
  .operation operation left depth :: stack

/-! ### The beginning of a class -/

/-- Dashes at the beginning of a class stand for themselves. -/
def readDashes (flags : Flags) (body : ClassBody) : List Char → ClassBody × List Char
  | '-' :: rest => readDashes flags (body.insert (.single '-') 0) (flags.skip rest)
  | text => (body, text)
termination_by text => text.length
decreasing_by
  have := flags.length_skip_le rest
  simp only [List.length_cons]
  omega

/-- The beginning of a class behind its bracket: whether it is negated, and its first elements. -/
def openClass (flags : Flags) (text : List Char) : Bool × ClassBody × List Char :=
  let text := flags.skip text
  let (negated, text) := match text with
    | '^' :: rest => (true, flags.skip rest)
    | _ => (false, text)
  match text with
  | ']' :: rest => (negated, .insert .nothing (.single ']') 0, rest)
  | text => (negated, readDashes flags .nothing text)

/-- A class between colons, behind its bracket. -/
def readAsciiClass? (flags : Flags) (text : List Char) : Option (Option CharSet × List Char) := do
  let (negated, name) ←
    match text with
    | ':' :: '^' :: rest => some (true, rest)
    | ':' :: rest => some (false, rest)
    | _ => none
  match Text.splitFirst ':' name with
  | some (name, ']' :: rest) =>
      let set ← CharSet.ofAsciiName? (String.ofList name)
      return (flags.negate? negated (flags.fold set), rest)
  | _ => none

/-! ### Elements -/

def readClassItem? (flags : Flags) : List Char → Option (Primitive × List Char)
  | [] => none
  | '\\' :: rest => readEscape? flags rest
  | c :: rest => some (.literal c, rest)

def itemSet? (flags : Flags) : Primitive → Option CharSet
  | .literal c => if flags.allows c then some (.single c) else none
  | .set set => some set
  | .condition _ => none

/-- The first character that is neither white space nor the first mark of a comment. -/
def afterMark? (inComment : Bool) : List Char → Option Char
  | [] => none
  | c :: rest =>
      if Text.isBlank c then afterMark? inComment rest
      else if !inComment && c == '#' then afterMark? true rest
      else some c

/-- The character that decides whether a dash before it makes a range. -/
def Flags.deciding? (flags : Flags) (text : List Char) : Option Char :=
  if flags.extended then (afterMark? false text).or text.head? else text.head?

/-- A range whose first character has been read, behind its dash. -/
def readRangeEnd? (flags : Flags) (first : Primitive) (text : List Char) :
    Option (CharSet × List Char) := do
  let (last, rest) ← readClassItem? flags (flags.skip text)
  match first, last with
  | .literal first, .literal last =>
      if first ≤ last && flags.allows last then return (.range first.toNat last.toNat, rest)
      else none
  | _, _ => none

/-- An element of a class or a range between two of them.  Before a bracket or another dash a
dash makes no range. -/
def readClassRange? (flags : Flags) (text : List Char) : Option (CharSet × List Char) := do
  let (first, rest) ← readClassItem? flags text
  match flags.skip rest with
  | [] => none
  | '-' :: after =>
      match flags.deciding? after with
      | some ']' | some '-' => return (← itemSet? flags first, '-' :: after)
      | _ => readRangeEnd? flags first after
  | rest => return (← itemSet? flags first, rest)

/-- The rest of a class, where `body` holds the elements since the last bracket or operation.  The
result is the set of the class, its depth, and what follows it. -/
def readClass? (flags : Flags) :
    Nat → List ClassFrame → ClassBody → List Char → Option (CharSet × Nat × List Char)
  | 0, _, _, _ => none
  | rounds + 1, stack, body, text =>
      match flags.skip text with
      | [] => none
      | '[' :: rest =>
          match readAsciiClass? flags rest with
          | some (some named, rest) => readClass? flags rounds stack (body.insert named 0) rest
          | some (none, _) => none
          | none =>
              let (negated, inner, rest) := openClass flags rest
              readClass? flags rounds (.bracket body negated :: stack) inner rest
      | ']' :: rest =>
          match flags.popOperation body stack with
          | ((set, depth), .bracket outer negated :: stack) =>
              match flags.negate? negated (flags.fold set) with
              | none => none
              | some set =>
                  if stack.isEmpty then some (set, depth + 1, rest)
                  else readClass? flags rounds stack (outer.insert set (depth + 1)) rest
          | _ => none
      | '&' :: '&' :: rest =>
          readClass? flags rounds (flags.pushOperation .intersection body stack) .nothing rest
      | '-' :: '-' :: rest =>
          readClass? flags rounds (flags.pushOperation .difference body stack) .nothing rest
      | '~' :: '~' :: rest =>
          readClass? flags rounds (flags.pushOperation .symmetricDifference body stack) .nothing
            rest
      | text =>
          match readClassRange? flags text with
          | none => none
          | some (element, rest) => readClass? flags rounds stack (body.insert element 0) rest

/-- A whole class behind its bracket: its set, its depth, and what follows it. -/
def readBracket? (flags : Flags) (text : List Char) : Option (CharSet × Nat × List Char) :=
  let (negated, body, inner) := openClass flags text
  readClass? flags (text.length + 1) [.bracket .nothing negated] body inner

end TypedOptions.Regex
