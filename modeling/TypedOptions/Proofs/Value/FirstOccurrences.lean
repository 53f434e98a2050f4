import TypedOptions.Proofs.Lists
import TypedOptions.Proofs.Value.Exactness
import TypedOptions.Proofs.Value.Listing

/-!
# First occurrences

Of items that count as the same a set keeps the first one.  Dynamic values and
the contents of fields are compared each in a way of their own, but for what
converters yield these agree: typed contents are the same, or equal in order,
exactly if the values that they were made of are equal.  So of several
spellings the one survives that comes first, however the field keeps its items.
-/

namespace TypedOptions

section Occurrences

variable {α : Type} {same : α → α → Bool} {items listed : List α}

/-- The list has of the items those that no earlier one is the same as. -/
structure FirstOccurrences (same : α → α → Bool) (items listed : List α) : Prop where
  mem_iff : ∀ item, item ∈ listed ↔
    ∃ before after, items = before ++ item :: after ∧ ∀ earlier ∈ before, same earlier item = false
  distinct : listed.Pairwise fun first second => same first second = false
  complete : ∀ item ∈ items, item ∈ listed ∨ ∃ kept ∈ listed, same kept item = true

theorem firstOccurrences_nil : FirstOccurrences same [] [] := by
  constructor <;> simp

/-- One more item is kept if it is the same as none that is kept already. -/
theorem FirstOccurrences.push {kept : DistinctList α same} {item : α}
    (hkept : FirstOccurrences same items kept.toList)
    (htrans : ∀ first ∈ items, ∀ second ∈ items, same first second = true →
      same second item = true → same first item = true) :
    FirstOccurrences same (items ++ [item]) (kept.push item).toList := by
  have hsplit : ∀ other, (∃ before after, items ++ [item] = before ++ other :: after ∧
      ∀ earlier ∈ before, same earlier other = false) ↔
      other ∈ kept.toList ∨ other = item ∧ ∀ earlier ∈ items, same earlier item = false := by
    intro other
    rw [hkept.mem_iff]
    constructor
    · rintro ⟨before, after, hitems, hbefore⟩
      rcases append_singleton_eq_iff.1 hitems with ⟨rfl, rfl, rfl⟩ | ⟨earlier, rfl, hwhole⟩
      · exact Or.inr ⟨rfl, hbefore⟩
      · exact Or.inl ⟨before, earlier, hwhole, hbefore⟩
    · rintro (⟨before, after, rfl, hbefore⟩ | ⟨rfl, hnew⟩)
      · exact ⟨before, after ++ [item], by simp, hbefore⟩
      · exact ⟨items, [], rfl, hnew⟩
  by_cases hany : kept.toList.any (same · item) = true
  · have htoList : (kept.push item).toList = kept.toList := by
      rw [DistinctList.push, dif_pos hany]
    obtain ⟨known, hknown, hsame⟩ := List.any_eq_true.1 hany
    rw [htoList]
    refine ⟨fun other => ?_, hkept.distinct, fun other hother => ?_⟩
    · rw [hsplit]
      refine ⟨Or.inl, fun hother => hother.resolve_right ?_⟩
      rintro ⟨-, hnew⟩
      obtain ⟨before, after, hitems, -⟩ := (hkept.mem_iff known).1 hknown
      have hmem : known ∈ items := by simp [hitems]
      rw [hnew known hmem] at hsame
      cases hsame
    · rcases List.mem_append.1 hother with hearlier | hlast
      · exact hkept.complete other hearlier
      · rw [List.mem_singleton.1 hlast]
        exact Or.inr ⟨known, hknown, hsame⟩
  · have hnone : ∀ other ∈ kept.toList, same other item = false := by
      simpa using hany
    -- An item that is dropped is the same as one that is kept.
    have hnew : ∀ earlier ∈ items, same earlier item = false := by
      intro earlier hearlier
      rcases hkept.complete earlier hearlier with hmem | ⟨known, hknown, hsame⟩
      · exact hnone earlier hmem
      · rw [← Bool.not_eq_true]
        intro hitem
        obtain ⟨before, after, hitems, -⟩ := (hkept.mem_iff known).1 hknown
        have hmem : known ∈ items := by simp [hitems]
        have hlinked := htrans known hmem earlier hearlier hsame hitem
        rw [hnone known hknown] at hlinked
        cases hlinked
    rw [DistinctList.toList_push_of_distinct hnone]
    refine ⟨fun other => ?_, ?_, fun other hother => ?_⟩
    · rw [hsplit, List.mem_append, List.mem_singleton, and_iff_left hnew]
    · refine List.pairwise_append.2 ⟨hkept.distinct, List.pairwise_singleton .., ?_⟩
      intro other hother last hlast
      rw [List.mem_singleton.1 hlast]
      exact hnone other hother
    · rcases List.mem_append.1 hother with hearlier | hlast
      · rcases hkept.complete other hearlier with hmem | ⟨known, hknown, hsame⟩
        · exact Or.inl (List.mem_append_left _ hmem)
        · exact Or.inr ⟨known, List.mem_append_left _ hknown, hsame⟩
      · exact Or.inl (List.mem_append_right _ hlast)

theorem firstOccurrences_ofList
    (htrans : ∀ first ∈ items, ∀ second ∈ items, ∀ third ∈ items,
      same first second = true → same second third = true → same first third = true) :
    FirstOccurrences same items (DistinctList.ofList items : DistinctList α same).toList := by
  induction items using List.reverseRecOn with
  | nil => exact firstOccurrences_nil
  | append_singleton earlier item ih =>
      have hearlier : ∀ {other}, other ∈ earlier → other ∈ earlier ++ [item] :=
        fun hother => List.mem_append_left _ hother
      have hkept := ih fun first hfirst second hsecond third hthird =>
        htrans first (hearlier hfirst) second (hearlier hsecond) third (hearlier hthird)
      rw [DistinctList.ofList, List.foldl_append]
      exact hkept.push fun first hfirst second hsecond =>
        htrans first (hearlier hfirst) second (hearlier hsecond) item
          (List.mem_append_right _ (List.mem_singleton_self item))

end Occurrences

/-! ## Elements -/

theorem Double.equals_trans {first second third : Double} (hfirst : first.equals second = true)
    (hsecond : second.equals third = true) : first.equals third = true := by
  have heq : ∀ {x y : Double}, x.bits = y.bits → x = y := by
    intro x y hbits
    cases x
    cases y
    cases hbits
    rfl
  simp only [equals, Bool.and_eq_true, Bool.not_eq_true', Bool.or_eq_true, beq_iff_eq] at *
  obtain ⟨⟨hnumber, -⟩, hone⟩ := hfirst
  obtain ⟨⟨-, hother⟩, htwo⟩ := hsecond
  refine ⟨⟨hnumber, hother⟩, ?_⟩
  rcases hone with hbits | ⟨hzero, hmiddle⟩
  · cases heq hbits
    exact htwo
  · rcases htwo with hbits | ⟨-, hlast⟩
    · cases heq hbits
      exact Or.inr ⟨hzero, hmiddle⟩
    · exact Or.inr ⟨hzero, hlast⟩

namespace FieldModel

/-- What is the same as a third content in two steps is so in one. -/
def Links (model : FieldModel) : Prop :=
  ∀ first second third, model.same first second = true → model.same second third = true →
    model.same first third = true

theorem links_ofKey {α β : Type} [BEq α] [LawfulBEq α] [Ord β] [Std.TransOrd β] (key : α → β)
    (toValue : α → Value) (ofValue? : Value → Option α) :
    (ofKey key toValue ofValue?).Links := by
  intro (first : α) (second : α) (third : α) hfirst hsecond
  have hone : first = second := eq_of_beq hfirst
  have htwo : second = third := eq_of_beq hsecond
  exact beq_of_eq (hone.trans htwo)

theorem links_of_name {α : Type} (name : α → String) {model : FieldModel} {view : model.Carrier → α}
    (hsame : ∀ first second, model.same first second = (name (view first) == name (view second))) :
    model.Links := by
  intro first second third hfirst hsecond
  rw [hsame, beq_iff_eq] at *
  exact hfirst.trans hsecond

end FieldModel

namespace ElementType

variable {type : ElementType}

theorem links (type : ElementType) : type.model.Links := by
  cases type with
  | double => exact fun _ _ _ => Double.equals_trans
  | path =>
      intro first second third hfirst hsecond
      exact Path.same_iff.2 ((Path.same_iff.1 hfirst).trans (Path.same_iff.1 hsecond))
  | classRef bound? => exact FieldModel.links_of_name RegisteredClass.name fun _ _ => rfl
  | factory interface => exact FieldModel.links_of_name RegisteredClass.name fun _ _ => rfl
  | _ => exact FieldModel.links_ofKey _ _ _

/-- Contents of an element type are the same if the values are equal that they were made of. -/
theorem same_eq_equals {first second : Value} {one other : type.model.Carrier}
    (hone : type.model.ofValue? first = some one)
    (hother : type.model.ofValue? second = some other) :
    type.model.same one other = first.equals second := by
  have hfirst := type.retains first one hone
  have hsecond := type.retains second other hother
  cases type with
  | enumeration constants =>
      have hlawful : LawfulBEq (Fin constants.constants.length) := inferInstance
      have hexact : (ElementType.enumeration constants).IsExact := trivial
      rw [Bool.eq_iff_iff]
      constructor
      · intro hsame
        have hcontent : one = other := hlawful.eq_of_beq hsame
        rw [← hfirst, ← hsecond, hcontent]
        simp [model, FieldModel.enumeration, FieldModel.ofKey, Value.equals]
      · intro hequals
        rw [← hfirst] at hequals
        have hvalue := eq_toValue_of_equals hexact one hequals
        rw [hfirst] at hvalue
        rw [hvalue, hone] at hother
        cases hother
        exact hlawful.rfl
  | factory interface =>
      rw [← hfirst, ← hsecond]
      simp [model, FieldModel.factory, Value.equals]
  | _ =>
      -- A value of another shape stands for nothing.
      cases first <;> cases hone
      cases second <;> cases hother
      simp [Value.equals]
      rfl

end ElementType

namespace FieldModel

/-- Equal in order is the same as the same. -/
def Ordered (model : FieldModel) : Prop :=
  ∀ first second, model.order first second = .eq ↔ model.same first second = true

theorem ordered_ofKey {α β : Type} [BEq α] [LawfulBEq α] [Ord β] [Std.TransOrd β]
    [Std.LawfulEqOrd β] {key : α → β} (hkey : Function.Injective key) (toValue : α → Value)
    (ofValue? : Value → Option α) : (ofKey key toValue ofValue?).Ordered := by
  intro (first : α) (second : α)
  change compare (key first) (key second) = .eq ↔ (first == second) = true
  rw [Std.compare_eq_iff_eq, beq_iff_eq]
  exact hkey.eq_iff

end FieldModel

instance : Std.LawfulEqCmp Path.Component.order where
  compare_self := Std.ReflCmp.compare_self
  eq_of_compare {first second} horder := by
    have hparts : first.rank = second.rank ∧ first.nameText = second.nameText := by
      simpa [Path.Component.order, compareLex, compareOn, Ordering.then_eq_eq] using horder
    cases first <;> cases second <;> simp_all [Path.Component.rank, Path.Component.nameText]

namespace ElementType

/-- The element types that sorted collections are made of. -/
def HasOrder : ElementType → Prop
  | .bool => True
  | .int => True
  | .long => True
  | .string => True
  | .enumeration _ => True
  | .level => True
  | .path => True
  | _ => False

theorem ordered {type : ElementType} (horder : type.HasOrder) : type.model.Ordered := by
  cases type with
  | bool => exact FieldModel.ordered_ofKey Function.injective_id _ _
  | int => exact FieldModel.ordered_ofKey (fun _ _ => Int32.toInt_inj.1) _ _
  | long => exact FieldModel.ordered_ofKey (fun _ _ => Int64.toInt_inj.1) _ _
  | string => exact FieldModel.ordered_ofKey Function.injective_id _ _
  | enumeration constants => exact FieldModel.ordered_ofKey (fun _ _ => Fin.ext) _ _
  | level =>
      refine FieldModel.ordered_ofKey (fun first second hrank => ?_) _ _
      cases first <;> cases second <;> first | rfl | cases hrank
  | path =>
      intro (first : Path) (second : Path)
      change List.compareLex Path.Component.order first.components second.components = .eq ↔ _
      rw [Std.LawfulEqCmp.compare_eq_iff_eq]
      exact Path.same_iff.symm
  | _ => exact horder.elim

end ElementType

end TypedOptions
