import Mathlib.Logic.Relation
import TypedOptions.Proofs.Path.Normal

/-!
# Paths above a path

The parent of a normal path is the normal path without its last name, so the
places above a place are those that a beginning of its names leads to.
-/

namespace TypedOptions

namespace Path

/-- The path is the parent of the other one, or is above its parent. -/
def IsAbove (above path : Path) : Prop :=
  Relation.TransGen (fun lower upper : Path => lower.parent? = some upper) path above

/-! ## Parents of normal paths -/

theorem IsName.not_isFiller {text : String} (hname : IsName text) :
    isFiller text.toList = false := by
  have hplain := hname.plain
  unfold isFiller
  rw [Bool.or_eq_false_iff, beq_eq_false_iff_ne, beq_eq_false_iff_ne]
  constructor
  · intro hempty
    rw [hempty] at hplain
    cases hplain
  · intro hpoint
    rw [hpoint] at hplain
    cases hplain

theorem dropFillers_map_toList {names : List String} (hnames : ∀ text ∈ names, IsName text) :
    dropFillers (names.map String.toList) = names.map String.toList := by
  rcases List.eq_nil_or_concat names with rfl | ⟨earlier, last, rfl⟩
  · rfl
  · have hlast : IsName last := hnames last (by simp)
    simp [dropFillers, hlast.not_isFiller]

theorem parent?_ofNames_append {names : List String} {last : String}
    (hnames : ∀ text ∈ names ++ [last], IsName text) :
    (ofNames (names ++ [last])).parent? = some (ofNames names) := by
  have hpieces : Text.splitAll '/' (['/'].intercalate ((names ++ [last]).map String.toList)) =
      (names ++ [last]).map String.toList :=
    Text.splitAll_intercalate (by simp) (noSlash_of_mem_map hnames)
  have hearlier : ∀ text ∈ names, IsName text := fun text htext =>
    hnames text (List.mem_append_left _ htext)
  have hparent : ofNames names = ⟨String.ofList ('/' :: joinPieces (names.map String.toList))⟩ := by
    rw [joinPieces, ← toList_text_ofNames, String.ofList_toList]
  unfold parent?
  rw [toList_text_ofNames]
  simp only [splitStart, hpieces, dropFillers_map_toList hnames]
  split
  · rename_i hnil
    simp at hnil
  · rw [List.map_append, List.map_singleton, List.dropLast_concat,
      dropFillers_map_toList hearlier, hparent]
    rfl

theorem parent?_root : (ofNames []).parent? = none := by
  decide

theorem exists_of_parent?_ofNames {names : List String} (hnames : ∀ text ∈ names, IsName text)
    {above : Path} (hparent : (ofNames names).parent? = some above) :
    ∃ earlier last, names = earlier ++ [last] ∧ above = ofNames earlier := by
  rcases List.eq_nil_or_concat names with rfl | ⟨earlier, last, rfl⟩
  · rw [parent?_root] at hparent
    cases hparent
  · rw [List.concat_eq_append] at hnames hparent ⊢
    rw [parent?_ofNames_append hnames] at hparent
    exact ⟨earlier, last, rfl, (Option.some.inj hparent).symm⟩

/-! ## Places above a place -/

theorem exists_prefix_of_isAbove {names : List String} (hnames : ∀ text ∈ names, IsName text)
    {above : Path} (habove : IsAbove above (ofNames names)) :
    ∃ earlier, above = ofNames earlier ∧ earlier <+: names ∧ earlier ≠ names := by
  induction habove with
  | single hparent =>
      obtain ⟨earlier, last, rfl, rfl⟩ := exists_of_parent?_ofNames hnames hparent
      exact ⟨earlier, rfl, List.prefix_append _ _, by simp⟩
  | tail _ hparent ih =>
      obtain ⟨middle, rfl, hbegins, -⟩ := ih
      obtain ⟨earlier, last, rfl, rfl⟩ := exists_of_parent?_ofNames
        (fun text htext => hnames text (hbegins.subset htext)) hparent
      have hlonger := hbegins.length_le
      refine ⟨earlier, rfl, (List.prefix_append _ _).trans hbegins, fun heq => ?_⟩
      subst heq
      rw [List.length_append, List.length_singleton] at hlonger
      omega

theorem isAbove_ofNames {names earlier : List String} (hnames : ∀ text ∈ names, IsName text)
    (hbegins : earlier <+: names) (hne : earlier ≠ names) :
    IsAbove (ofNames earlier) (ofNames names) := by
  induction names using List.reverseRecOn with
  | nil => exact absurd (List.prefix_nil.1 hbegins) hne
  | append_singleton names last ih =>
      have hparent := parent?_ofNames_append hnames
      rcases List.prefix_concat_iff.1 hbegins with heq | hearlier
      · exact absurd heq hne
      · by_cases hsame : earlier = names
        · subst hsame
          exact .single hparent
        · exact .head hparent
            (ih (fun text htext => hnames text (List.mem_append_left _ htext)) hearlier hsame)

theorem isAbove_normal_iff {above path : Path} :
    IsAbove above.normal path.normal ↔ above.names <+: path.names ∧ above.names ≠ path.names := by
  have hnames : ∀ text ∈ path.names, IsName text := fun _ => isName_of_mem_names
  constructor
  · intro habove
    obtain ⟨earlier, heq, hbegins, hne⟩ := exists_prefix_of_isAbove hnames habove
    have hearlier : above.names = earlier := by
      rw [← names_normal, heq, names_ofNames fun text htext => hnames text (hbegins.subset htext)]
    rw [hearlier]
    exact ⟨hbegins, hne⟩
  · rintro ⟨hbegins, hne⟩
    exact isAbove_ofNames hnames hbegins hne

theorem prefix_iff_eq_or {names location : List String} :
    location <+: names ↔ location = names ∨ location <+: names ∧ location ≠ names := by
  constructor
  · intro hbegins
    exact or_iff_not_imp_left.2 fun hne => ⟨hbegins, hne⟩
  · rintro (rfl | ⟨hbegins, -⟩)
    · exact List.prefix_refl _
    · exact hbegins

/-- The listed places are those that a proper beginning of the names leads to. -/
theorem mem_ancestors_iff {names location : List String} :
    location ∈ ancestors names ↔ location <+: names ∧ location ≠ names := by
  simp only [ancestors, List.mem_map, List.mem_range]
  constructor
  · rintro ⟨length, hless, rfl⟩
    refine ⟨?_, fun heq => ?_⟩
    · exact List.take_prefix length names
    · have hlength := congrArg List.length heq
      rw [List.length_take] at hlength
      omega
  · rintro ⟨hbegins, hne⟩
    refine ⟨location.length, ?_, (List.prefix_iff_eq_take.1 hbegins).symm⟩
    exact lt_of_le_of_ne hbegins.length_le fun hlength => hne (hbegins.eq_of_length hlength)

end Path

end TypedOptions
