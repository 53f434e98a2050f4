/-!
# Tables of character codes

A property of characters is kept as the ascending list of the code ranges
that have it.
-/

namespace TypedOptions.Text

/-- Ascending, disjoint ranges of character codes, both ends included. -/
abbrev CodeTable := List (Nat × Nat)

/-- Membership of a code; the scan ends at the first range above it. -/
def CodeTable.containsCode : CodeTable → Nat → Bool
  | [], _ => false
  | (first, last) :: rest, code =>
      if code < first then false
      else if code ≤ last then true
      else CodeTable.containsCode rest code

def CodeTable.contains (table : CodeTable) (c : Char) : Bool :=
  table.containsCode c.toNat

/-- Every `step`th code from `first` to `last`. -/
def CodeTable.spaced (first last step : Nat) : CodeTable :=
  if step ≤ 1 then [(first, last)]
  else (List.range ((last - first) / step + 1)).map fun count =>
    (first + count * step, first + count * step)

@[simp] theorem CodeTable.containsCode_nil (code : Nat) :
    CodeTable.containsCode [] code = false :=
  rfl

theorem CodeTable.containsCode_cons (first last code : Nat) (rest : CodeTable) :
    CodeTable.containsCode ((first, last) :: rest) code =
      if code < first then false
      else if code ≤ last then true
      else CodeTable.containsCode rest code :=
  rfl

example : CodeTable.spaced 3 9 3 = [(3, 3), (6, 6), (9, 9)] := by decide

end TypedOptions.Text
