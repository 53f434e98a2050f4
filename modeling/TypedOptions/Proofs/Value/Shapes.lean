import TypedOptions.Value.Field

/-!
# Shapes of values

A type of fields accepts the dynamic values that stand for typed ones.  What
it accepts follows from its declared type, from which nothing can be told
about missing values and about bounds of classes.
-/

namespace TypedOptions

theorem isSome_mapM_iff {α β : Type} {step : α → Option β} {items : List α} :
    (items.mapM step).isSome = true ↔ ∀ item ∈ items, (step item).isSome = true := by
  induction items with
  | nil => simp
  | cons item rest ih =>
      rw [List.forall_mem_cons, ← ih, List.mapM_cons]
      cases step item with
      | none => simp
      | some result => cases rest.mapM step <;> simp

theorem Value.mem_of_mem_dropEqual {items : List Value} {item : Value}
    (hitem : item ∈ dropEqual items) : item ∈ items := by
  -- All that is kept at any time comes from the items.
  suffices hkept : dropEqual items ⊆ items from hkept hitem
  unfold dropEqual
  refine List.foldlRecOn items _ (motive := (· ⊆ items)) (List.nil_subset items) ?_
  intro kept hsubset next hnext
  split
  · exact hsubset
  · exact List.append_subset.2 ⟨hsubset, by simpa using hnext⟩

namespace FieldModel

/-- The dynamic value stands for a typed one. -/
def Accepts (model : FieldModel) (value : Value) : Prop :=
  (model.ofValue? value).isSome = true

variable {model : FieldModel}

theorem isSome_itemsOf?_iff {value : Value} :
    (itemsOf? model value).isSome = true ↔
      ∃ items, value = .collection items ∧ ∀ item ∈ items, model.Accepts item := by
  constructor
  · intro hsome
    cases value with
    | collection items => exact ⟨items, rfl, isSome_mapM_iff.1 hsome⟩
    | _ => cases hsome
  · rintro ⟨items, rfl, haccepts⟩
    exact isSome_mapM_iff.2 haccepts

theorem accepts_constant {constants : Enumeration} {name : String}
    (hname : name ∈ constants.constants) : (enumeration constants).Accepts (.constant name) := by
  change (constants.constants.finIdxOf? name).isSome = true
  rw [List.isSome_finIdxOf?]
  exact List.contains_iff_mem.2 hname

theorem accepts_factory {interface : Interface} (factory : Factory interface) :
    (FieldModel.factory interface).Accepts (.classRef factory.entry) := by
  change (Factory.ofClass? factory.entry).isSome = true
  rw [Factory.ofClass?_entry]
  rfl

theorem accepts_nullable_iff {value : Value} :
    model.nullable.Accepts value ↔ value = .absent ∨ model.Accepts value := by
  cases value with
  | absent => exact iff_of_true rfl (Or.inl rfl)
  | _ => simp [Accepts, nullable]

end FieldModel

namespace FieldType

/-- The type of the items of a collection. -/
def items? : FieldType → Option FieldType
  | .list type => some type
  | .array type => some type
  | .set type => some type
  | .sortedSet type => some type
  | .bag type => some type
  | _ => none

/-- Collections differ in how they keep their items, which does not matter for shapes. -/
@[elab_as_elim]
theorem shape_induction {motive : FieldType → Prop}
    (element : ∀ type, motive (.element type))
    (nullable : ∀ type, motive type → motive (.nullable type))
    (collection : ∀ type items, type.items? = some items → motive items → motive type)
    (type : FieldType) : motive type := by
  induction type with
  | element type => exact element type
  | nullable type ih => exact nullable type ih
  | list type ih => exact collection _ type rfl ih
  | array type ih => exact collection _ type rfl ih
  | set type ih => exact collection _ type rfl ih
  | sortedSet type ih => exact collection _ type rfl ih
  | bag type ih => exact collection _ type rfl ih

def Accepts (type : FieldType) (value : Value) : Prop :=
  type.model.Accepts value

variable {type items : FieldType} {value : Value}

theorem accepts_nullable_iff :
    (nullable type).Accepts value ↔ value = .absent ∨ type.Accepts value :=
  FieldModel.accepts_nullable_iff

theorem accepts_collection_iff (hitems : type.items? = some items) :
    type.Accepts value ↔
      ∃ values, value = .collection values ∧ ∀ item ∈ values, items.Accepts item := by
  refine Iff.trans ?_ FieldModel.isSome_itemsOf?_iff
  cases type with
  | element type => cases hitems
  | nullable type => cases hitems
  | list type =>
      cases hitems
      exact Iff.rfl
  | array type =>
      cases hitems
      exact Iff.rfl
  | set type =>
      cases hitems
      exact Bool.eq_iff_iff.1 Option.isSome_map
  | sortedSet type =>
      cases hitems
      exact Bool.eq_iff_iff.1 Option.isSome_map
  | bag type =>
      cases hitems
      exact Bool.eq_iff_iff.1 Option.isSome_map

theorem optionType_of_items? (hitems : type.items? = some items) :
    ∃ kind, type.optionType = .collection kind items.optionType := by
  cases type with
  | element type => cases hitems
  | nullable type => cases hitems
  | _ =>
      cases hitems
      exact ⟨_, rfl⟩

theorem toValue_of_items? (hitems : type.items? = some items) (content : type.Carrier) :
    ∃ contents : List items.Carrier,
      type.toValue content = .collection (contents.map items.toValue) := by
  cases type with
  | element type => cases hitems
  | nullable type => cases hitems
  | list type =>
      cases hitems
      exact ⟨content, rfl⟩
  | array type =>
      cases hitems
      exact ⟨content, rfl⟩
  | set type =>
      cases hitems
      exact ⟨content.toList, rfl⟩
  | sortedSet type =>
      cases hitems
      exact ⟨content.toList, rfl⟩
  | bag type =>
      cases hitems
      exact ⟨content.toList, rfl⟩

end FieldType

theorem ElementType.accepts_toValue (type : ElementType) (content : type.model.Carrier) :
    type.model.Accepts (type.model.toValue content) := by
  cases type with
  | enumeration constants => exact FieldModel.accepts_constant (List.getElem_mem _)
  | factory interface => exact FieldModel.accepts_factory content
  | _ => rfl

namespace FieldType

/-- What a field holds is accepted by it. -/
theorem accepts_toValue (type : FieldType) (content : type.Carrier) :
    type.Accepts (type.toValue content) := by
  induction type using shape_induction with
  | element type => exact type.accepts_toValue content
  | nullable type ih =>
      rw [accepts_nullable_iff]
      cases content with
      | none => exact Or.inl rfl
      | some content => exact Or.inr (ih content)
  | collection type items hitems ih =>
      obtain ⟨contents, hvalue⟩ := toValue_of_items? hitems content
      rw [accepts_collection_iff hitems, hvalue]
      refine ⟨_, rfl, fun item hitem => ?_⟩
      obtain ⟨content, -, rfl⟩ := List.mem_map.1 hitem
      exact ih content

/-- A type that accepts a collection accepts the empty one. -/
theorem accepts_empty {type : FieldType} {values : List Value}
    (haccepts : type.Accepts (.collection values)) : type.Accepts (.collection []) := by
  induction type using shape_induction with
  | element type => cases type <;> cases haccepts
  | nullable type ih =>
      rw [accepts_nullable_iff] at haccepts ⊢
      rcases haccepts with habsent | haccepts
      · cases habsent
      · exact Or.inr (ih haccepts)
  | collection type items hitems ih =>
      rw [accepts_collection_iff hitems]
      exact ⟨[], rfl, by simp⟩

theorem collection_or_accepts_absent {type : FieldType} {value : Value}
    (hoptional : type.isNullable = true ∨ type.optionType.collectionKind?.isSome = true)
    (haccepts : type.Accepts value) :
    (∃ values, value = .collection values) ∨ type.Accepts .absent := by
  induction type using shape_induction with
  | element type => simp [isNullable, optionType, OptionType.collectionKind?] at hoptional
  | nullable type ih => exact Or.inr (accepts_nullable_iff.2 (Or.inl rfl))
  | collection type items hitems ih =>
      obtain ⟨values, hvalue, -⟩ := (accepts_collection_iff hitems).1 haccepts
      exact Or.inl ⟨values, hvalue⟩

end FieldType

/-! ## Declared types -/

namespace OptionType

/-- The value has the shape of the declared type, to any depth. -/
def Fits : OptionType → Value → Prop
  | .element type, value => type.model.Accepts value
  | .collection _ items, value =>
      ∃ values, value = .collection values ∧ ∀ item ∈ values, items.Fits item

theorem collectionKind?_withBound (type : OptionType) (bound : String) :
    (type.withBound bound).collectionKind? = type.collectionKind? := by
  cases type with
  | element type => cases type <;> rfl
  | collection kind items =>
      cases items with
      | element type => cases type <;> rfl
      | collection kind items => rfl

theorem fits_withBound_iff {type : OptionType} {bound : String} {value : Value} :
    (type.withBound bound).Fits value ↔ type.Fits value := by
  cases type with
  | element type => cases type <;> rfl
  | collection kind items =>
      cases items with
      | element type => cases type <;> rfl
      | collection kind items => rfl

end OptionType

theorem FieldType.accepts_of_fits {type : FieldType} {value : Value}
    (hfits : type.optionType.Fits value) : type.Accepts value := by
  induction type using shape_induction generalizing value with
  | element type => exact hfits
  | nullable type ih => exact accepts_nullable_iff.2 (Or.inr (ih hfits))
  | collection type items hitems ih =>
      obtain ⟨kind, hkind⟩ := optionType_of_items? hitems
      rw [hkind] at hfits
      obtain ⟨values, rfl, hvalues⟩ := hfits
      exact (accepts_collection_iff hitems).2 ⟨values, rfl, fun item hitem => ih (hvalues item hitem)⟩

end TypedOptions
