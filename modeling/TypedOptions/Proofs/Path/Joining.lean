import TypedOptions.Path.Basic
import TypedOptions.Proofs.Text.Pieces

/-!
# Components of joined paths

A path starts at the root, at a leading point or plainly; all that follows is
read piece by piece.  Joining a relative path keeps the start of the base and
appends the pieces of the path.
-/

namespace TypedOptions

namespace Path

theorem component?_of_ne {piece : List Char} (hempty : piece ≠ []) (hpoint : piece ≠ ['.'])
    (hpoints : piece ≠ ['.', '.']) : component? piece = some (.name (String.ofList piece)) := by
  unfold component?
  split
  · exact absurd rfl hempty
  · exact absurd rfl hpoint
  · exact absurd rfl hpoints
  · rfl

/-- How a path with the given pieces starts. -/
def leadOf : List (List Char) → List Component
  | [] :: _ :: _ => [.root]
  | ['.'] :: _ => [.current]
  | _ => []

def pieces (path : Path) : List (List Char) :=
  Text.splitAll '/' path.text.toList

def lead (path : Path) : List Component :=
  leadOf path.pieces

def body (path : Path) : List Component :=
  path.pieces.filterMap component?

theorem components_eq (path : Path) : path.components = path.lead ++ path.body := by
  simp only [components, lead, body, pieces]
  split
  · rename_i hnil
    exact absurd hnil (Text.splitAll_ne_nil _ _)
  · rename_i hsplit
    simp [hsplit, leadOf, component?]
  · rename_i rest hne hsplit
    cases rest with
    | nil => exact absurd rfl hne
    | cons piece more => simp [hsplit, leadOf, component?, List.filterMap_cons]
  · rename_i rest hsplit
    simp [hsplit, leadOf, component?]
  · rename_i hnil hempty habsolute hcurrent
    have hlead : leadOf (Text.splitAll '/' path.text.toList) = [] := by
      unfold leadOf
      split
      · rename_i hsplit
        exact absurd hsplit (habsolute _)
      · rename_i hsplit
        exact absurd hsplit (hcurrent _)
      · rfl
    rw [hlead, List.nil_append]

theorem mem_body {path : Path} {component : Component} (hmem : component ∈ path.body) :
    component = .parent ∨ ∃ text, component = .name text := by
  obtain ⟨piece, -, hpiece⟩ := List.mem_filterMap.1 hmem
  unfold component? at hpiece
  split at hpiece
  · cases hpiece
  · cases hpiece
  · cases hpiece
    exact Or.inl rfl
  · cases hpiece
    exact Or.inr ⟨_, rfl⟩

theorem root_not_mem_body (path : Path) : Component.root ∉ path.body := by
  intro hmem
  rcases mem_body hmem with heq | ⟨text, heq⟩ <;> cases heq

theorem lead_of_isAbsolute {path : Path} (habsolute : path.isAbsolute = true) :
    path.lead = [.root] := by
  unfold isAbsolute at habsolute
  unfold lead pieces
  cases htext : path.text.toList with
  | nil => simp [htext] at habsolute
  | cons c rest =>
      have hc : c = '/' := by simpa [htext] using habsolute
      cases hrest : Text.splitAll '/' rest with
      | nil => exact absurd hrest (Text.splitAll_ne_nil '/' rest)
      | cons piece more => simp [hc, Text.splitAll, hrest, leadOf]

theorem lead_of_not_isAbsolute {path : Path} (hrelative : path.isAbsolute = false) :
    path.lead = [] ∨ path.lead = [.current] := by
  unfold isAbsolute at hrelative
  unfold lead pieces
  cases htext : path.text.toList with
  | nil => simp [Text.splitAll, leadOf]
  | cons c rest =>
      have hc : c ≠ '/' := by simpa [htext] using hrelative
      simp only [Text.splitAll, hc, if_false]
      split <;> (unfold leadOf; split <;> simp_all)

theorem leadOf_of_ne {first : List Char} (rest : List (List Char)) (hempty : first ≠ [])
    (hpoint : first ≠ ['.']) : leadOf (first :: rest) = [] := by
  unfold leadOf
  split
  · rename_i heq
    exact absurd (List.cons.inj heq).1 hempty
  · rename_i heq
    exact absurd (List.cons.inj heq).1 hpoint
  · rfl

theorem leadOf_append {pieces : List (List Char)} (more others : List (List Char))
    (hpieces : pieces ≠ []) (hmore : more ≠ []) (hothers : others ≠ []) :
    leadOf (pieces ++ more) = leadOf (pieces ++ others) := by
  obtain ⟨first, rest, rfl⟩ := List.exists_cons_of_ne_nil hpieces
  obtain ⟨next, after, rfl⟩ := List.exists_cons_of_ne_nil hmore
  obtain ⟨other, last, rfl⟩ := List.exists_cons_of_ne_nil hothers
  cases rest <;> (unfold leadOf; split <;> simp_all)

/-! ## Joining -/

theorem pieces_ne_singleton_nil {path : Path} (htext : path.text ≠ "") : path.pieces ≠ [[]] := by
  intro hpieces
  unfold pieces at hpieces
  cases hchars : path.text.toList with
  | nil => exact htext (String.toList_eq_nil_iff.1 hchars)
  | cons c rest =>
      rw [hchars, Text.splitAll] at hpieces
      split at hpieces
      · cases hrest : Text.splitAll '/' rest with
        | nil => exact Text.splitAll_ne_nil '/' rest hrest
        | cons piece more => simp [hrest] at hpieces
      · split at hpieces <;> simp at hpieces

theorem lead_eq_leadOf_append {path : Path} (htext : path.text ≠ "") :
    path.lead = leadOf (path.pieces ++ [[]]) := by
  have hne := pieces_ne_singleton_nil htext
  unfold lead
  cases hpieces : path.pieces with
  | nil => exact absurd hpieces (Text.splitAll_ne_nil _ _)
  | cons first rest =>
      rw [hpieces] at hne
      cases rest <;> (unfold leadOf; split <;> simp_all)

theorem toList_join_of_slash {base path : Path} {before : List Char}
    (hbase : base.text.toList = before ++ ['/']) (hpath : path.isAbsolute = false) :
    (base.join path).text.toList = before ++ '/' :: path.text.toList := by
  have hslash : base.endsWithSlash = true := by simp [endsWithSlash, hbase]
  simp [join, hpath, hslash, hbase]

theorem toList_join_of_not_slash {base path : Path} (htext : base.text ≠ "")
    (hslash : base.endsWithSlash = false) (hpath : path.isAbsolute = false) :
    (base.join path).text.toList = base.text.toList ++ '/' :: path.text.toList := by
  simp [join, hpath, hslash, htext]

theorem exists_of_endsWithSlash {path : Path} (hslash : path.endsWithSlash = true) :
    ∃ before, path.text.toList = before ++ ['/'] :=
  List.getLast?_eq_some_iff.1 (by simpa [endsWithSlash] using hslash)

/-- The base of a join up to the slash that the path stands behind. -/
structure Base (base : Path) (before : List Char) : Prop where
  lead_eq : base.lead = leadOf (Text.splitAll '/' before ++ [[]])
  body_eq : base.body = (Text.splitAll '/' before).filterMap component?
  toList_join : ∀ path : Path, path.isAbsolute = false →
    (base.join path).text.toList = before ++ '/' :: path.text.toList

theorem exists_base {base : Path} (htext : base.text ≠ "") : ∃ before, Base base before := by
  cases hslash : base.endsWithSlash with
  | true =>
      obtain ⟨before, hbefore⟩ := exists_of_endsWithSlash hslash
      have hpieces : base.pieces = Text.splitAll '/' before ++ [[]] := by
        rw [pieces, hbefore, Text.splitAll_append_separator]
        rfl
      refine ⟨before, by rw [lead, hpieces], ?_, fun path => toList_join_of_slash hbefore⟩
      rw [body, hpieces, List.filterMap_append]
      simp [component?]
  | false =>
      exact ⟨base.text.toList, lead_eq_leadOf_append htext, rfl,
        fun path => toList_join_of_not_slash htext hslash⟩

theorem components_join {base path : Path} (htext : base.text ≠ "")
    (hpath : path.isAbsolute = false) :
    (base.join path).components = base.components ++ path.body := by
  obtain ⟨before, hlead, hbody, hjoin⟩ := exists_base htext
  have hpieces : (base.join path).pieces = Text.splitAll '/' before ++ path.pieces := by
    rw [pieces, hjoin path hpath, Text.splitAll_append_separator]
    rfl
  have hsame := leadOf_append path.pieces [[]] (Text.splitAll_ne_nil '/' before)
    (Text.splitAll_ne_nil _ _) (by simp)
  rw [components_eq, components_eq base, lead, body, hpieces, hsame, ← hlead,
    List.filterMap_append, ← hbody, List.append_assoc, ← body]

theorem join_of_text_eq {base path : Path} (htext : base.text = "") : base.join path = path := by
  unfold join
  split
  · rfl
  · simp [htext]

theorem isAbsolute_join {base path : Path} (htext : base.text ≠ "")
    (hpath : path.isAbsolute = false) : (base.join path).isAbsolute = base.isAbsolute := by
  cases hchars : base.text.toList with
  | nil => exact absurd (String.toList_eq_nil_iff.1 hchars) htext
  | cons c rest =>
      unfold join
      simp only [hpath, Bool.false_eq_true, if_false]
      split <;> simp [isAbsolute, hchars]

end Path

end TypedOptions
