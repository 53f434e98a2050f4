import TypedOptions.Regex.CharSet

/-!
# Regular expressions

An expression describes texts by sets of characters, sequences,
alternatives, repetitions, and conditions on the neighbours of a place.
-/

namespace TypedOptions

/-- A condition on the characters before and after a place of a text. -/
inductive Assertion where
  | textStart
  | textEnd
  | lineStart
  | lineEnd
  /-- Lines that end with a carriage return, a line feed or both. -/
  | lineStartCrlf
  | lineEndCrlf
  | wordBoundary (word : CharSet)
  | noWordBoundary (word : CharSet)
  | wordStart (word : CharSet)
  | wordEnd (word : CharSet)
  | wordStartHalf (word : CharSet)
  | wordEndHalf (word : CharSet)

inductive Regex where
  | empty
  | char (set : CharSet)
  | assert (condition : Assertion)
  | sequence (first second : Regex)
  | alternative (first second : Regex)
  /-- At least `least` and at most `greatest?` repetitions. -/
  | repetition (body : Regex) (least : Nat) (greatest? : Option Nat)
  /-- A group whose place in the text is remembered. -/
  | capture (body : Regex)

end TypedOptions
