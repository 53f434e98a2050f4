import TypedOptions.Regex.Named
import TypedOptions.Text.Blank

/-!
# Flags of expressions

Flags say how the text of an expression is read: whether case counts,
whether white space and comments do, and which characters the short classes
hold.
-/

namespace TypedOptions.Regex

/-- How the text that follows is read. -/
structure Flags where
  ignoreCase : Bool
  multiLine : Bool
  dotAll : Bool
  crlf : Bool
  unicode : Bool
  /-- White space and comments do not count. -/
  extended : Bool

namespace Flags

def initial : Flags :=
  ⟨false, false, false, false, true, false⟩

def set (flags : Flags) (flag : Char) (on : Bool) : Flags :=
  match flag with
  | 'i' => { flags with ignoreCase := on }
  | 'm' => { flags with multiLine := on }
  | 's' => { flags with dotAll := on }
  | 'R' => { flags with crlf := on }
  | 'u' => { flags with unicode := on }
  | 'x' => { flags with extended := on }
  | _ => flags

end Flags

/-! ### What does not count -/

def skipExtended (inComment : Bool) : List Char → List Char
  | [] => []
  | c :: rest =>
      if inComment then skipExtended (c != '\n') rest
      else if Text.isBlank c then skipExtended false rest
      else if c == '#' then skipExtended true rest
      else c :: rest

theorem length_skipExtended_le (inComment : Bool) (text : List Char) :
    (skipExtended inComment text).length ≤ text.length := by
  induction text generalizing inComment with
  | nil => simp [skipExtended]
  | cons c rest ih =>
      simp only [skipExtended]
      split
      · exact Nat.le_succ_of_le (ih _)
      · split
        · exact Nat.le_succ_of_le (ih _)
        · split
          · exact Nat.le_succ_of_le (ih _)
          · exact Nat.le_refl _

namespace Flags

/-- Passes over what does not count at this place. -/
def skip (flags : Flags) (text : List Char) : List Char :=
  if flags.extended then skipExtended false text else text

theorem skip_of_not_extended {flags : Flags} (h : flags.extended = false) (text : List Char) :
    flags.skip text = text := by
  simp [skip, h]

theorem length_skip_le (flags : Flags) (text : List Char) :
    (flags.skip text).length ≤ text.length := by
  unfold skip
  split
  · exact length_skipExtended_le false text
  · exact Nat.le_refl _

theorem length_lt_of_skip {flags : Flags} {text rest : List Char} {c : Char}
    (h : flags.skip text = c :: rest) : rest.length < text.length := by
  have hle := flags.length_skip_le text
  rw [h, List.length_cons] at hle
  omega

/-- The characters before a closing brace that count, and what follows the brace. -/
def inBraces? (flags : Flags) (text : List Char) : Option (List Char × List Char) :=
  match _h : flags.skip text with
  | [] => none
  | c :: rest =>
      if c = '\x7d' then some ([], rest)
      else (flags.inBraces? rest).map fun (inner, after) => (c :: inner, after)
termination_by text.length
decreasing_by exact length_lt_of_skip _h

/-- Decimal digits and what follows them. -/
def digits (flags : Flags) : List Char → List Char × List Char
  | [] => ([], [])
  | c :: rest =>
      if c.isDigit then
        let (more, after) := flags.digits (flags.skip rest)
        (c :: more, after)
      else ([], c :: rest)
termination_by text => text.length
decreasing_by
  have := flags.length_skip_le rest
  simp only [List.length_cons]
  omega

/-! ### Sets -/

def fold (flags : Flags) (set : CharSet) : CharSet :=
  if !flags.ignoreCase then set
  else if flags.unicode then .folded set
  else .foldedAscii set

def word (flags : Flags) : CharSet :=
  if flags.unicode then .word else .asciiWord

/-- A set and its complement; bytes outside of ASCII cannot be matched on their own. -/
def negate? (flags : Flags) (negated : Bool) (set : CharSet) : Option CharSet :=
  if !negated then some set
  else if flags.unicode then some (.complement set)
  else none

def shortClass? (flags : Flags) (letter : Char) : Option CharSet :=
  let plain := match letter.toLower with
    | 'd' => if flags.unicode then CharSet.digit else CharSet.asciiDigit
    | 's' => if flags.unicode then CharSet.blank else CharSet.asciiBlank
    | _ => flags.word
  flags.negate? letter.isUpper plain

/-- Without the flag for all characters a class holds characters of ASCII alone. -/
def allows (flags : Flags) (c : Char) : Bool :=
  flags.unicode || c.toNat < 0x80

end Flags

end TypedOptions.Regex
