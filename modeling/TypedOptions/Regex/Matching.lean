import TypedOptions.Regex.Basic

/-!
# Matching regular expressions

An expression leads from a set of places of a text to the set of places
where its matches end.  A repetition is followed until no further place is
reached, at most once per place of the text.
-/

namespace TypedOptions

namespace Assertion

def charBefore? (text : Array Char) (place : Nat) : Option Char :=
  if place = 0 then none else text[place - 1]?

def isWord (word : CharSet) (c? : Option Char) : Bool :=
  c?.any word.contains

def holds (text : Array Char) (place : Nat) (assertion : Assertion) : Bool :=
  let before := charBefore? text place
  let after := text[place]?
  match assertion with
  | .textStart => before.isNone
  | .textEnd => after.isNone
  | .lineStart => before.isNone || before == some '\n'
  | .lineEnd => after.isNone || after == some '\n'
  | .lineStartCrlf =>
      before.isNone || before == some '\n' || (before == some '\r' && after != some '\n')
  | .lineEndCrlf =>
      after.isNone || after == some '\r' || (after == some '\n' && before != some '\r')
  | .wordBoundary word => isWord word before != isWord word after
  | .noWordBoundary word => isWord word before == isWord word after
  | .wordStart word => !isWord word before && isWord word after
  | .wordEnd word => isWord word before && !isWord word after
  | .wordStartHalf word => !isWord word before
  | .wordEndHalf word => !isWord word after

end Assertion

namespace Regex

def unite (first second : List Nat) : List Nat :=
  first ++ second.filter fun place => !first.contains place

/-- The places reached by exactly `count` steps. -/
def exactly (step : List Nat → List Nat) : Nat → List Nat → List Nat
  | 0, places => places
  | count + 1, places => if places = [] then [] else exactly step count (step places)

/-- The places reached by at most `count` steps, where `places` have been reached and `fresh` are
those from which no step has been made yet. -/
def atMost (step : List Nat → List Nat) : Nat → List Nat → List Nat → List Nat
  | 0, places, _ => places
  | count + 1, places, fresh =>
      let next := (step fresh).filter fun place => !places.contains place
      if next = [] then places else atMost step count (places ++ next) next

/-- The places where matches end that begin at one of the given places. -/
def ends (text : Array Char) : Regex → List Nat → List Nat
  | .empty, places => places
  | .char set, places =>
      (places.filter fun place => text[place]?.any set.contains).map (· + 1)
  | .assert condition, places => places.filter fun place => condition.holds text place
  | .sequence first second, places => second.ends text (first.ends text places)
  | .alternative first second, places => unite (first.ends text places) (second.ends text places)
  | .repetition body least greatest?, places =>
      let reached := exactly (body.ends text) least places
      let more := match greatest? with
        | some greatest => min (greatest - least) (text.size + 1)
        | none => text.size + 1
      atMost (body.ends text) more reached reached
  | .capture body, places => body.ends text places

/-- Whether the expression matches some part of the text. -/
def isMatch (expression : Regex) (text : String) : Bool :=
  let chars := text.toList.toArray
  expression.ends chars (List.range (chars.size + 1)) != []

/-- Whether the expression matches the text from its beginning to its end. -/
def spans (expression : Regex) (text : String) : Bool :=
  let chars := text.toList.toArray
  (expression.ends chars [0]).contains chars.size

@[simp] theorem ends_empty (text : Array Char) (places : List Nat) :
    Regex.empty.ends text places = places :=
  rfl

@[simp] theorem ends_sequence (text : Array Char) (first second : Regex) (places : List Nat) :
    (Regex.sequence first second).ends text places =
      second.ends text (first.ends text places) :=
  rfl

@[simp] theorem ends_capture (text : Array Char) (body : Regex) (places : List Nat) :
    (Regex.capture body).ends text places = body.ends text places :=
  rfl

theorem mem_unite {place : Nat} {first second : List Nat} :
    place ∈ unite first second ↔ place ∈ first ∨ place ∈ second := by
  simp only [unite, List.mem_append, List.mem_filter, Bool.not_eq_true', List.contains_eq_mem,
    decide_eq_false_iff_not]
  by_cases h : place ∈ first <;> simp [h]

end Regex

end TypedOptions
