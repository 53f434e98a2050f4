import TypedOptions.Path.Basic

/-!
# Normal paths

The normal form of a path is absolute and has only names below the root: a
relative path starts at the root, points are dropped, and a double point
takes the name before it away.
-/

namespace TypedOptions.Path

/-- The names from the root after one more component. -/
def step (names : List String) : Component → List String
  | .root => names
  | .current => names
  | .parent => names.dropLast
  | .name text => names ++ [text]

/-- The names of the normal form, from the root down. -/
def names (path : Path) : List String :=
  path.components.foldl step []

def ofNames (names : List String) : Path :=
  ⟨"/" ++ String.intercalate "/" names⟩

def normal (path : Path) : Path :=
  ofNames path.names

/-- The places above the place with the given names, from the root down. -/
def ancestors (names : List String) : List (List String) :=
  (List.range names.length).map names.take

@[simp] theorem step_parent (names : List String) : step names .parent = names.dropLast :=
  rfl

@[simp] theorem step_name (names : List String) (text : String) :
    step names (.name text) = names ++ [text] :=
  rfl

example : (⟨"/conf/./x/../a.properties/"⟩ : Path).normal = ⟨"/conf/a.properties"⟩ := by decide

example : (⟨"../../x"⟩ : Path).normal = ⟨"/x"⟩ := by decide

example : (⟨""⟩ : Path).normal = ⟨"/"⟩ := by decide

end TypedOptions.Path
