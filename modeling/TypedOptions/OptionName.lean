/-!
# Option names

A name is a sequence of segments joined by points.  A segment is a non-empty
row of ASCII letters, digits, underscores, plus and minus signs.  Sections of
option files have names of the same form.
-/

namespace TypedOptions

def isNameChar (c : Char) : Bool :=
  c.isAlphanum || c == '_' || c == '+' || c == '-'

/-- The rest of a name; `inSegment` tells whether the segment at hand has a character already. -/
def isNameFrom (inSegment : Bool) : List Char → Bool
  | [] => inSegment
  | c :: rest =>
      if isNameChar c then isNameFrom true rest
      else c == '.' && inSegment && isNameFrom false rest

def isName (text : List Char) : Bool :=
  isNameFrom false text

/-- A text that is known to be a name. -/
structure OptionName where
  text : String
  valid : isName text.toList = true
  deriving DecidableEq

namespace OptionName

def ofString? (text : String) : Option OptionName :=
  if valid : isName text.toList = true then some ⟨text, valid⟩ else none

/-- The name below a section; without a section the name itself. -/
def qualify (parent name : String) : String :=
  if parent = "" then name else parent ++ "." ++ name

@[simp] theorem qualify_empty (name : String) : qualify "" name = name := by
  simp [qualify]

theorem qualify_of_ne_empty {parent : String} (name : String) (h : parent ≠ "") :
    qualify parent name = parent ++ "." ++ name := by
  simp [qualify, h]

theorem ofString?_eq_some_iff {text : String} {name : OptionName} :
    ofString? text = some name ↔ name.text = text := by
  constructor
  · intro h
    unfold ofString? at h
    split at h
    · exact (Option.some.inj h) ▸ rfl
    · cases h
  · rintro rfl
    simp [ofString?, name.valid]

end OptionName

@[simp] theorem isNameFrom_nil (inSegment : Bool) : isNameFrom inSegment [] = inSegment :=
  rfl

@[simp] theorem isName_nil : isName [] = false :=
  rfl

end TypedOptions
