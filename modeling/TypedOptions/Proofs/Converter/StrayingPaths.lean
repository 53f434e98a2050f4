import TypedOptions.Proofs.Converter.SafePaths
import TypedOptions.Proofs.Text.Uppercase

/-!
# Paths that safe mode refuses

A path strays if its beginning leads above the place where it starts, or if
it is absolute and not below the temporary directory.  Safe mode refuses it,
in upper case as well, where names are changed but none becomes a point or a
slash.
-/

namespace TypedOptions

namespace Path

def Component.isName : Component → Bool
  | .name _ => true
  | _ => false

/-- Going along the components one comes above the place where the first one starts: at some point
there have been more double points than names. -/
def Climbs (components : List Component) : Prop :=
  ∃ before after, components = before ++ after ∧
    before.countP Component.isName < before.count .parent

/-- A relative path strays if it climbs, and an absolute one unless it is spelled as a path below
the temporary directory that does not climb from there. -/
def Strays (path : Path) : Prop :=
  if path.isAbsolute then
    ∀ rest, path.components = FileConverter.temporaryDirectory.components ++ rest → Climbs rest
  else Climbs path.components

end Path

namespace FileConverter

open TypedOptions.Path

theorem count_parent_le_of_staysBelow {depth : Int} {before after : List Component}
    (hdepth : 0 ≤ depth) (hroot : Component.root ∉ before)
    (hstays : staysBelow depth (before ++ after) = true) :
    (before.count .parent : Int) ≤ depth + before.countP Component.isName := by
  induction before generalizing depth with
  | nil => simpa using hdepth
  | cons component rest ih =>
      obtain ⟨hfirst, hrest⟩ := not_or.1 fun hmem => hroot (List.mem_cons.2 hmem)
      simp only [List.cons_append, staysBelow, Bool.and_eq_true, decide_eq_true_eq] at hstays
      have hcount := ih hstays.1 hrest hstays.2
      cases component with
      | root => exact absurd rfl hfirst
      | current => simpa [levels, Component.isName] using hcount
      | parent =>
          rw [List.count_cons_self, List.countP_cons_of_neg (by decide)]
          simp only [levels] at hcount
          omega
      | name text =>
          rw [List.count_cons_of_ne (by simp), List.countP_cons_of_pos rfl]
          simp only [levels] at hcount
          omega

theorem not_climbs_of_staysBelow {components : List Component} (hroot : Component.root ∉ components)
    (hstays : staysBelow 0 components = true) : ¬Climbs components := by
  rintro ⟨before, after, rfl, hclimbs⟩
  have hbefore : Component.root ∉ before := fun hmem => hroot (List.mem_append_left _ hmem)
  have hcount := count_parent_le_of_staysBelow (Int.le_refl 0) hbefore hstays
  omega

theorem root_not_mem_components {path : Path} (hrelative : path.isAbsolute = false) :
    Component.root ∉ path.components := by
  have hbody := root_not_mem_body path
  rw [components_eq]
  rcases lead_of_not_isAbsolute hrelative with hlead | hlead <;> simp [hlead, hbody]

/-- Safe mode refuses every path that strays. -/
theorem pathFault?_ne_none_of_strays {path : Path} (hstrays : path.Strays) :
    pathFault? path ≠ none := by
  intro hsafe
  unfold Strays at hstrays
  cases habsolute : path.isAbsolute with
  | true =>
      rw [if_pos habsolute] at hstrays
      obtain ⟨rest, hrest, hstays⟩ := (pathFault?_of_absolute habsolute).1 hsafe
      exact not_climbs_of_staysBelow (root_not_mem_rest habsolute hrest) hstays
        (hstrays rest hrest)
  | false =>
      rw [if_neg (by rw [habsolute]; exact Bool.false_ne_true)] at hstrays
      exact not_climbs_of_staysBelow (root_not_mem_components habsolute)
        ((pathFault?_of_relative habsolute).1 hsafe) hstrays

end FileConverter

/-! ## Paths in upper case -/

namespace Path

def upper (path : Path) : Path :=
  ⟨Text.uppercase path.text⟩

def Component.upper : Component → Component
  | .name text => .name (Text.uppercase text)
  | component => component

theorem component?_upperChar (piece : List Char) :
    component? (piece.flatMap Text.upperChar) = (component? piece).map Component.upper := by
  have hback : ∀ marks, marks.all Text.isMark = true → piece ≠ marks →
      piece.flatMap Text.upperChar ≠ marks :=
    fun marks hmarks hne heq => hne (Text.eq_of_flatMap_upperChar hmarks heq)
  by_cases hempty : piece = []
  · rw [hempty]
    rfl
  · by_cases hpoint : piece = ['.']
    · rw [hpoint]
      rfl
    · by_cases hpoints : piece = ['.', '.']
      · rw [hpoints]
        rfl
      · rw [component?_of_ne hempty hpoint hpoints,
          component?_of_ne (hback _ rfl hempty) (hback _ (by decide) hpoint)
            (hback _ (by decide) hpoints)]
        simp [Component.upper, Text.uppercase]

theorem pieces_upper (path : Path) :
    path.upper.pieces = path.pieces.map fun piece => piece.flatMap Text.upperChar := by
  unfold pieces upper
  rw [Text.toList_uppercase, Text.splitAll_upperChar (by decide)]

theorem body_upper (path : Path) : path.upper.body = path.body.map Component.upper := by
  unfold body
  rw [pieces_upper, List.filterMap_map, List.map_filterMap]
  congr 1
  funext piece
  exact component?_upperChar piece

theorem isAbsolute_upper (path : Path) : path.upper.isAbsolute = path.isAbsolute := by
  unfold isAbsolute upper
  rw [Text.toList_uppercase]
  cases path.text.toList with
  | nil => rfl
  | cons c rest =>
      obtain ⟨first, more, hfirst⟩ := List.exists_cons_of_ne_nil (Text.upperChar_ne_nil c)
      by_cases hc : c = '/'
      · rw [hc]
        rfl
      · have hslash : '/' ∉ Text.upperChar c := Text.not_mem_upperChar (by decide) hc
        have hne : first ≠ '/' := by
          rintro rfl
          simp [hfirst] at hslash
        rw [List.flatMap_cons, hfirst, List.cons_append, List.head?_cons, List.head?_cons]
        exact (beq_eq_false_iff_ne.2 (by simpa using hne)).trans
          (beq_eq_false_iff_ne.2 (by simpa using hc)).symm

theorem lead_upper (path : Path) : path.upper.lead = path.lead := by
  unfold lead
  rw [pieces_upper]
  cases path.pieces with
  | nil => rfl
  | cons first rest =>
      by_cases hempty : first = []
      · rw [hempty]
        cases rest <;> rfl
      · by_cases hpoint : first = ['.']
        · rw [hpoint]
          rfl
        · have hback : first.flatMap Text.upperChar ≠ ['.'] := fun heq =>
            hpoint (Text.eq_of_flatMap_upperChar (by decide) heq)
          have hne : first.flatMap Text.upperChar ≠ [] := by
            rwa [Ne, Text.flatMap_upperChar_eq_nil_iff]
          rw [List.map_cons, leadOf_of_ne _ hne hback, leadOf_of_ne _ hempty hpoint]

theorem components_upper (path : Path) :
    path.upper.components = path.components.map Component.upper := by
  have hlead : path.lead.map Component.upper = path.lead := by
    cases habsolute : path.isAbsolute with
    | true =>
        rw [lead_of_isAbsolute habsolute]
        rfl
    | false => rcases lead_of_not_isAbsolute habsolute with hlead | hlead <;> rw [hlead] <;> rfl
  rw [components_eq, components_eq, lead_upper, body_upper, List.map_append, hlead]

theorem Climbs.upper {components : List Component} (hclimbs : Climbs components) :
    Climbs (components.map Component.upper) := by
  obtain ⟨before, after, rfl, hless⟩ := hclimbs
  refine ⟨before.map Component.upper, after.map Component.upper, List.map_append, ?_⟩
  have hnames : Component.isName ∘ Component.upper = Component.isName := by
    funext component
    cases component <;> rfl
  have hparents : (before.map Component.upper).count .parent = before.count .parent := by
    rw [List.count_eq_countP, List.count_eq_countP, List.countP_map]
    congr 1
    funext component
    cases component <;> rfl
  rw [List.countP_map, hnames, hparents]
  exact hless

/-- In upper case no path is spelled as one below the temporary directory. -/
theorem Strays.upper {path : Path} (hstrays : path.Strays) : path.upper.Strays := by
  unfold Strays at hstrays ⊢
  rw [isAbsolute_upper, components_upper]
  cases habsolute : path.isAbsolute with
  | false =>
      rw [habsolute] at hstrays
      exact Climbs.upper hstrays
  | true =>
      rw [if_pos rfl]
      intro rest hrest
      have htmp : Component.name "tmp" ∈ path.components.map Component.upper := by
        rw [hrest, FileConverter.components_temporaryDirectory]
        simp
      obtain ⟨component, -, hcomponent⟩ := List.mem_map.1 htmp
      cases component with
      | name text =>
          have htext : Text.uppercase text = "tmp" := Component.name.inj hcomponent
          have ht : 't' ∈ text.toList.flatMap Text.upperChar := by
            rw [← Text.toList_uppercase, htext]
            decide
          obtain ⟨c, -, hc⟩ := List.mem_flatMap.1 ht
          exact absurd hc (Text.t_not_mem_upperChar c)
      | _ => cases hcomponent

end Path

end TypedOptions
