import TypedOptions.Regex.FoldTable
import TypedOptions.Text.Case

/-!
# Sets of characters

Sets are kept as they are combined, so that membership is a structural
question.
-/

namespace TypedOptions

inductive CharSet where
  | nothing
  | range (first last : Nat)
  | table (ranges : Text.CodeTable)
  | union (first second : CharSet)
  | inter (first second : CharSet)
  | complement (set : CharSet)
  /-- All characters that agree with a member of the set up to case. -/
  | folded (set : CharSet)
  /-- The same for the letters of ASCII alone. -/
  | foldedAscii (set : CharSet)

namespace CharSet

def lastCode : Nat := 0x10FFFF

def single (c : Char) : CharSet :=
  .range c.toNat c.toNat

def difference (first second : CharSet) : CharSet :=
  .inter first (.complement second)

def symmetricDifference (first second : CharSet) : CharSet :=
  .union (difference first second) (difference second first)

def uniteAll (sets : List CharSet) : CharSet :=
  sets.foldl .union .nothing

/-! ### Membership -/

/-- The character that stands for a code and all that differ from it by case. -/
def foldCode (code : Nat) : Nat :=
  Text.moveByRuns Regex.foldRuns code

/-- All codes that are folded to the same code. -/
def orbit (code : Nat) : List Nat :=
  let folded := foldCode code
  folded :: Regex.foldRuns.filterMap fun run =>
    let source : Int := folded - run.offset
    if 0 ≤ source && run.covers source.toNat then some source.toNat else none

def orbitAscii (code : Nat) : List Nat :=
  if 0x41 ≤ code && code ≤ 0x5A then [code, code + 32]
  else if 0x61 ≤ code && code ≤ 0x7A then [code, code - 32]
  else [code]

def containsCode : CharSet → Nat → Bool
  | .nothing, _ => false
  | .range first last, code => first ≤ code && code ≤ last
  | .table ranges, code => ranges.containsCode code
  | .union first second, code => first.containsCode code || second.containsCode code
  | .inter first second, code => first.containsCode code && second.containsCode code
  | .complement set, code => !set.containsCode code
  | .folded set, code => (orbit code).any set.containsCode
  | .foldedAscii set, code => (orbitAscii code).any set.containsCode

def contains (set : CharSet) (c : Char) : Bool :=
  set.containsCode c.toNat

@[simp] theorem contains_nothing (c : Char) : nothing.contains c = false :=
  rfl

@[simp] theorem contains_union (first second : CharSet) (c : Char) :
    (union first second).contains c = (first.contains c || second.contains c) :=
  rfl

@[simp] theorem contains_inter (first second : CharSet) (c : Char) :
    (inter first second).contains c = (first.contains c && second.contains c) :=
  rfl

@[simp] theorem contains_complement (set : CharSet) (c : Char) :
    (complement set).contains c = !set.contains c :=
  rfl

theorem contains_single (c d : Char) : (single c).contains d = decide (d = c) := by
  have h : d = c ↔ d.toNat = c.toNat := ⟨fun h => by rw [h], fun h => Char.toNat_inj.mp h⟩
  simp only [contains, single, containsCode, h]
  by_cases hc : d.toNat = c.toNat
  · simp [hc]
  · have : ¬(c.toNat ≤ d.toNat ∧ d.toNat ≤ c.toNat) := by omega
    simpa [hc] using this

end CharSet

end TypedOptions
