import TypedOptions.Path.Normal
import TypedOptions.Proofs.Path.Joining

/-!
# Names of normal paths

All names that a path leads through are plain: not empty, without slashes and
not points.  A path built from plain names has just these names, so a normal
path is a place and nothing else.  A relative path goes on from where its base
leads to, however the base is spelled.
-/

namespace TypedOptions

namespace Path

/-- A name that stands for a step down, and for a single one. -/
structure IsName (text : String) : Prop where
  plain : component? text.toList = some (.name text)
  noSlash : '/' ∉ text.toList

theorem isName_of_mem_body {path : Path} {text : String} (hmem : .name text ∈ path.body) :
    IsName text := by
  obtain ⟨piece, hpiece, hname⟩ := List.mem_filterMap.1 hmem
  have htext : text = String.ofList piece := by
    unfold component? at hname
    split at hname
    · cases hname
    · cases hname
    · cases hname
    · cases hname
      rfl
  subst htext
  constructor
  · rw [String.toList_ofList]
    exact hname
  · rw [String.toList_ofList]
    exact Text.not_mem_of_mem_splitAll hpiece

theorem isName_of_mem_components {path : Path} {text : String}
    (hmem : .name text ∈ path.components) : IsName text := by
  rw [components_eq] at hmem
  rcases List.mem_append.1 hmem with hlead | hbody
  · unfold lead leadOf at hlead
    split at hlead <;> simp at hlead
  · exact isName_of_mem_body hbody

/-- Steps add names of the path only, whatever they take away. -/
theorem isName_of_mem_steps {components : List Component} {names : List String}
    (hnames : ∀ text ∈ names, IsName text)
    (hcomponents : ∀ text, .name text ∈ components → IsName text) :
    ∀ text ∈ components.foldl step names, IsName text := by
  induction components generalizing names with
  | nil => exact hnames
  | cons component rest ih =>
      rw [List.foldl_cons]
      apply ih
      · cases component with
        | root => exact hnames
        | current => exact hnames
        | parent => exact fun text htext => hnames text (List.dropLast_subset _ htext)
        | name last =>
            intro text htext
            rcases List.mem_append.1 htext with hearlier | hlast
            · exact hnames text hearlier
            · rw [List.mem_singleton.1 hlast]
              exact hcomponents last List.mem_cons_self
      · exact fun text htext => hcomponents text (List.mem_cons_of_mem _ htext)

theorem isName_of_mem_names {path : Path} {text : String} (hmem : text ∈ path.names) :
    IsName text :=
  isName_of_mem_steps (fun _ hnil => absurd hnil List.not_mem_nil)
    (fun _ => isName_of_mem_components) text hmem

theorem toList_text_ofNames (names : List String) :
    (ofNames names).text.toList = '/' :: ['/'].intercalate (names.map String.toList) := by
  simp [ofNames]

theorem noSlash_of_mem_map {names : List String} (hnames : ∀ text ∈ names, IsName text) :
    ∀ piece ∈ names.map String.toList, '/' ∉ piece := by
  intro piece hpiece
  obtain ⟨text, htext, rfl⟩ := List.mem_map.1 hpiece
  exact (hnames text htext).noSlash

theorem pieces_ofNames {names : List String} (hne : names ≠ [])
    (hnames : ∀ text ∈ names, IsName text) :
    (ofNames names).pieces = [] :: names.map String.toList := by
  rw [pieces, toList_text_ofNames, Text.splitAll, if_pos rfl,
    Text.splitAll_intercalate (by simpa using hne) (noSlash_of_mem_map hnames)]

theorem components_ofNames {names : List String} (hnames : ∀ text ∈ names, IsName text) :
    (ofNames names).components = .root :: names.map .name := by
  cases hcase : names with
  | nil => decide
  | cons first rest =>
      have hpieces := pieces_ofNames (by simp [hcase]) hnames
      have hbody : (ofNames names).body = names.map .name := by
        rw [body, hpieces, List.filterMap_cons_none rfl, List.filterMap_map]
        exact List.filterMap_eq_map_iff_forall_eq_some.2 fun text htext => (hnames text htext).plain
      rw [← hcase, components_eq, hbody, lead, hpieces, hcase]
      rfl

theorem foldl_step_names (before names : List String) :
    (names.map Component.name).foldl step before = before ++ names := by
  induction names generalizing before with
  | nil => simp
  | cons text rest ih => simp [ih]

theorem names_ofNames {names : List String} (hnames : ∀ text ∈ names, IsName text) :
    (ofNames names).names = names := by
  unfold Path.names
  rw [components_ofNames hnames, List.foldl_cons]
  exact foldl_step_names [] names

/-- A path and its normal form lead to the same place. -/
theorem names_normal (path : Path) : path.normal.names = path.names :=
  names_ofNames fun _ => isName_of_mem_names

theorem normal_normal (path : Path) : path.normal.normal = path.normal :=
  congrArg ofNames (names_normal path)

theorem normal_eq_iff {path other : Path} :
    path.normal = other.normal ↔ path.names = other.names := by
  refine ⟨fun hnormal => ?_, congrArg ofNames⟩
  rw [← names_normal path, hnormal, names_normal]

theorem isAbsolute_normal (path : Path) : path.normal.isAbsolute = true := by
  rw [isAbsolute, normal, toList_text_ofNames]
  rfl

/-- Below the root a normal path has names only. -/
theorem components_normal (path : Path) :
    path.normal.components = .root :: path.names.map .name :=
  components_ofNames fun _ => isName_of_mem_names

/-! ## Joined paths -/

theorem foldl_step_lead (path : Path) (names : List String) : path.lead.foldl step names = names := by
  unfold lead leadOf
  split <;> rfl

theorem names_eq_foldl_body (path : Path) : path.names = path.body.foldl step [] := by
  rw [names, components_eq, List.foldl_append, foldl_step_lead]

theorem names_join (base : Path) {path : Path} (hpath : path.isAbsolute = false) :
    (base.join path).names = path.body.foldl step base.names := by
  by_cases htext : base.text = ""
  · have hbase : base = ⟨""⟩ := congrArg Path.mk htext
    rw [join_of_text_eq htext, names_eq_foldl_body, hbase]
    rfl
  · rw [names, components_join htext hpath, List.foldl_append]
    rfl

/-- A path seen from the normal form of a base leads to where it leads from the base itself. -/
theorem normal_join_normal (base path : Path) :
    (base.normal.join path).normal = (base.join path).normal := by
  cases hpath : path.isAbsolute with
  | true => rw [join_of_isAbsolute _ hpath, join_of_isAbsolute _ hpath]
  | false => rw [normal_eq_iff, names_join _ hpath, names_join _ hpath, names_normal]

end Path

end TypedOptions
