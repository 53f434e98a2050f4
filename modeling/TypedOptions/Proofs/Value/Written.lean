import TypedOptions.Proofs.Value.Listing

/-!
# What fields hold after writing

A field that was written may list the items of a collection in another order
and without repetition, but it adds nothing to them.  What it then holds comes
back from its dynamic value whatever the type is: all that a type cannot keep
is lost when a value is written for the first time.
-/

namespace TypedOptions

/-! ## Collections -/

theorem exists_source_of_mapM {α β : Type} {step : α → Option β} {sources : List α}
    {items : List β} (h : sources.mapM step = some items) {item : β} (hitem : item ∈ items) :
    ∃ source ∈ sources, step source = some item := by
  induction sources generalizing items with
  | nil =>
      cases h
      cases hitem
  | cons source rest ih =>
      rw [List.mapM_cons] at h
      obtain ⟨first, hfirst, hmore⟩ := Option.bind_eq_some_iff.1 h
      obtain ⟨more, hrest, hall⟩ := Option.bind_eq_some_iff.1 hmore
      cases hall
      rcases List.mem_cons.1 hitem with rfl | hmem
      · exact ⟨source, List.mem_cons_self, hfirst⟩
      · obtain ⟨other, hother, hstep⟩ := ih hrest hmem
        exact ⟨other, List.mem_cons_of_mem _ hother, hstep⟩

theorem DistinctList.mem_toList_foldl_push {α : Type} {same : α → α → Bool} {items : List α}
    {start : DistinctList α same} {item : α} (hitem : item ∈ (items.foldl push start).toList) :
    item ∈ start.toList ∨ item ∈ items := by
  induction items generalizing start with
  | nil => exact Or.inl hitem
  | cons first rest ih =>
      rcases ih hitem with hpushed | hrest
      · unfold push at hpushed
        split at hpushed
        · exact Or.inl hpushed
        · rcases List.mem_append.1 hpushed with hstart | hfirst
          · exact Or.inl hstart
          · exact Or.inr (List.mem_cons.2 (Or.inl (List.mem_singleton.1 hfirst)))
      · exact Or.inr (List.mem_cons_of_mem _ hrest)

theorem FieldModel.exists_sources {model : FieldModel} {value : Value}
    {items : List model.Carrier} (hitems : itemsOf? model value = some items) :
    ∃ sources, value = .collection sources ∧
      ∀ item ∈ items, ∃ source ∈ sources, model.ofValue? source = some item := by
  cases value with
  | collection sources => exact ⟨sources, rfl, fun _ hitem => exists_source_of_mapM hitems hitem⟩
  | _ => cases hitems

namespace FieldType

/-- What is held of a collection: items that were given, of which it can be put together again. -/
structure Gathers (type items : FieldType) (sources : List Value) (listed : List items.Carrier)
    (content : type.Carrier) : Prop where
  toValue_eq : type.toValue content = .collection (listed.map items.toValue)
  exists_source : ∀ item ∈ listed, ∃ source ∈ sources, items.ofValue? source = some item
  again : (∀ item ∈ listed, items.ofValue? (items.toValue item) = some item) →
    type.ofValue? (type.toValue content) = some content

variable {type items : FieldType} {value : Value} {content : type.Carrier}

theorem exists_gathers (hitems : type.items? = some items)
    (hcontent : type.ofValue? value = some content) :
    ∃ sources listed, value = .collection sources ∧ Gathers type items sources listed content := by
  cases type with
  | element type => cases hitems
  | nullable type => cases hitems
  | list type =>
      cases hitems
      obtain ⟨sources, hvalue, hsources⟩ := FieldModel.exists_sources hcontent
      exact ⟨sources, content, hvalue, rfl, hsources, FieldModel.itemsOf?_collectionOf⟩
  | array type =>
      cases hitems
      obtain ⟨sources, hvalue, hsources⟩ := FieldModel.exists_sources hcontent
      exact ⟨sources, content, hvalue, rfl, hsources, FieldModel.itemsOf?_collectionOf⟩
  | set type =>
      cases hitems
      obtain ⟨given, hgiven, rfl⟩ := Option.map_eq_some_iff.1 hcontent
      obtain ⟨sources, hvalue, hsources⟩ := FieldModel.exists_sources hgiven
      refine ⟨sources, _, hvalue, rfl, fun item hitem => ?_, fun hreturn => ?_⟩
      · apply hsources item
        exact (DistinctList.mem_toList_foldl_push hitem).resolve_left List.not_mem_nil
      · exact Option.map_eq_some_iff.2
          ⟨_, FieldModel.itemsOf?_collectionOf hreturn, DistinctList.ofList_toList _⟩
  | sortedSet type =>
      cases hitems
      obtain ⟨given, hgiven, rfl⟩ := Option.map_eq_some_iff.1 hcontent
      obtain ⟨sources, hvalue, hsources⟩ := FieldModel.exists_sources hgiven
      refine ⟨sources, _, hvalue, rfl, fun item hitem => ?_, fun hreturn => ?_⟩
      · exact hsources item ((SortedList.listsOnce_ofList given).subset item hitem)
      · exact Option.map_eq_some_iff.2
          ⟨_, FieldModel.itemsOf?_collectionOf hreturn, SortedList.ofList_toList _⟩
  | bag type =>
      cases hitems
      obtain ⟨given, hgiven, rfl⟩ := Option.map_eq_some_iff.1 hcontent
      obtain ⟨sources, hvalue, hsources⟩ := FieldModel.exists_sources hgiven
      refine ⟨sources, _, hvalue, rfl, fun item hitem => ?_, fun hreturn => ?_⟩
      · exact hsources item ((Bag.listsEach_ofList given).subset item hitem)
      · exact Option.map_eq_some_iff.2
          ⟨_, FieldModel.itemsOf?_collectionOf hreturn, Bag.ofList_toList _⟩

/-! ## Missing and empty values -/

theorem missing_or_present {content : (nullable type).Carrier}
    (hcontent : (nullable type).ofValue? value = some content) :
    value = .absent ∧ content = none ∨
      value ≠ .absent ∧ ∃ present, type.ofValue? value = some present ∧ content = some present := by
  by_cases habsent : value = .absent
  · subst habsent
    cases hcontent
    exact Or.inl ⟨rfl, rfl⟩
  · have hpresent := (FieldModel.ofValue?_nullable habsent).symm.trans hcontent
    obtain ⟨present, hread, rfl⟩ := Option.map_eq_some_iff.1 hpresent
    exact Or.inr ⟨habsent, present, hread, rfl⟩

theorem toValue_eq_absent_iff (hcontent : type.ofValue? value = some content) :
    type.toValue content = .absent ↔ value = .absent := by
  induction type using shape_induction with
  | element type =>
      have hsame : (element type).toValue content = value := type.retains value content hcontent
      rw [hsame]
  | nullable type ih =>
      rcases missing_or_present hcontent with ⟨rfl, rfl⟩ | ⟨-, present, hpresent, rfl⟩
      · exact iff_of_true rfl rfl
      · exact ih hpresent
  | collection type items hitems ih =>
      obtain ⟨sources, listed, rfl, hgathers⟩ := exists_gathers hitems hcontent
      simp [hgathers.toValue_eq]

theorem toValue_of_empty (hcontent : type.ofValue? (.collection []) = some content) :
    type.toValue content = .collection [] := by
  induction type using shape_induction with
  | element type => exact type.retains _ content hcontent
  | nullable type ih =>
      rcases missing_or_present hcontent with ⟨hvalue, -⟩ | ⟨-, present, hpresent, rfl⟩
      · cases hvalue
      · exact ih hpresent
  | collection type items hitems ih =>
      obtain ⟨sources, listed, hvalue, hgathers⟩ := exists_gathers hitems hcontent
      cases hvalue
      have hlisted : listed = [] := by
        apply List.eq_nil_iff_forall_not_mem.2
        intro item hitem
        obtain ⟨source, hsource, -⟩ := hgathers.exists_source item hitem
        cases hsource
      rw [hgathers.toValue_eq, hlisted]
      rfl

/-- What a field has been given once comes back from its dynamic value. -/
theorem ofValue?_toValue_of_written (hcontent : type.ofValue? value = some content) :
    type.ofValue? (type.toValue content) = some content := by
  induction type using shape_induction generalizing value with
  | element type =>
      have hvalue : (element type).toValue content = value := type.retains value content hcontent
      rw [hvalue, hcontent]
  | nullable type ih =>
      rcases missing_or_present hcontent with ⟨rfl, rfl⟩ | ⟨habsent, present, hpresent, rfl⟩
      · rfl
      · have hshown : type.toValue present ≠ .absent := fun hmissing =>
          habsent ((toValue_eq_absent_iff hpresent).1 hmissing)
        exact (FieldModel.ofValue?_nullable hshown).trans
          (Option.map_eq_some_iff.2 ⟨present, ih hpresent, rfl⟩)
  | collection type items hitems ih =>
      obtain ⟨sources, listed, -, hgathers⟩ := exists_gathers hitems hcontent
      apply hgathers.again
      intro item hitem
      obtain ⟨source, -, hsource⟩ := hgathers.exists_source item hitem
      exact ih hsource

end FieldType

/-! ## What holds of all parts of a value -/

/-- A value is a single one, or a collection of values. -/
@[elab_as_elim]
theorem Value.parts_induction {motive : Value → Prop}
    (single : ∀ value, (∀ items, value ≠ .collection items) → motive value)
    (collection : ∀ items, (∀ item ∈ items, motive item) → motive (.collection items))
    (value : Value) : motive value := by
  cases value with
  | collection items =>
      exact collection items fun item _ => Value.parts_induction single collection item
  | _ => exact single _ nofun
termination_by sizeOf value

/-- All parts of the value that are no collections have the property. -/
inductive Value.Throughout (property : Value → Prop) : Value → Prop where
  | single {value : Value} (hsingle : ∀ items, value ≠ .collection items)
      (hvalue : property value) : Throughout property value
  | collection {items : List Value} (hitems : ∀ item ∈ items, Throughout property item) :
      Throughout property (.collection items)

theorem Value.throughout_collection_iff {property : Value → Prop} {items : List Value} :
    Throughout property (.collection items) ↔ ∀ item ∈ items, Throughout property item := by
  constructor
  · intro h
    cases h with
    | single hsingle hvalue => exact absurd rfl (hsingle items)
    | collection hitems => exact hitems
  · exact .collection

/-- A field has no part that was not given to it. -/
theorem FieldType.throughout_of_written {property : Value → Prop} {type : FieldType}
    {value : Value} {content : type.Carrier} (hcontent : type.ofValue? value = some content)
    (hvalue : value.Throughout property) : (type.toValue content).Throughout property := by
  induction type using shape_induction generalizing value with
  | element type =>
      have hsame : (element type).toValue content = value := type.retains value content hcontent
      rwa [hsame]
  | nullable type ih =>
      rcases missing_or_present hcontent with ⟨rfl, rfl⟩ | ⟨-, present, hpresent, rfl⟩
      · exact hvalue
      · exact ih hpresent hvalue
  | collection type items hitems ih =>
      obtain ⟨sources, listed, rfl, hgathers⟩ := exists_gathers hitems hcontent
      rw [hgathers.toValue_eq, Value.throughout_collection_iff]
      intro part hpart
      obtain ⟨item, hitem, rfl⟩ := List.mem_map.1 hpart
      obtain ⟨source, hsource, hread⟩ := hgathers.exists_source item hitem
      exact ih hread (Value.throughout_collection_iff.1 hvalue source hsource)

end TypedOptions
