import TypedOptions.Proofs.Value.RoundTrip
import TypedOptions.Proofs.Value.Shapes

/-!
# Types whose values are told apart

Paths, doubles and classes are compared more coarsely than they are held: two
that count as equal can differ in spelling, in the sign of zero or in what
their name stands for.  Fields without any of them are told apart exactly, so
a dynamic value that equals the one of such a field is the same.
-/

namespace TypedOptions

/-- Values of the type that count as equal are the same. -/
def ElementType.IsExact : ElementType → Prop
  | .double => False
  | .path => False
  | .classRef _ => False
  | .factory _ => False
  | _ => True

namespace FieldType

/-- The type of what is held in the end, within collections and where values may be missing. -/
def leaf : FieldType → ElementType
  | .element type => type
  | .nullable type => type.leaf
  | .list type => type.leaf
  | .array type => type.leaf
  | .set type => type.leaf
  | .sortedSet type => type.leaf
  | .bag type => type.leaf

/-- What a field of the type holds is told by any dynamic value that equals its own. -/
structure IsExact (type : FieldType) : Prop where
  leaf : type.leaf.IsExact
  reversible : type.Reversible

theorem leaf_of_items? {type items : FieldType} (hitems : type.items? = some items) :
    type.leaf = items.leaf := by
  cases type with
  | element type => cases hitems
  | nullable type => cases hitems
  | _ =>
      cases hitems
      rfl

end FieldType

namespace FieldType

theorem eq_leaf_of_optionType {type : FieldType} {element : ElementType}
    (helement : type.optionType = .element element) : type.leaf = element := by
  induction type with
  | element type =>
      cases helement
      rfl
  | nullable type ih => exact ih helement
  | _ => cases helement

theorem eq_leaf_of_elementType {type : FieldType} {element : ElementType}
    (helement : type.optionType.elementType = .element element) : type.leaf = element := by
  induction type using shape_induction with
  | element type =>
      cases helement
      rfl
  | nullable type ih => exact ih helement
  | collection type items hitems ih =>
      obtain ⟨kind, hkind⟩ := optionType_of_items? hitems
      rw [hkind] at helement
      rw [leaf_of_items? hitems]
      exact eq_leaf_of_optionType helement

end FieldType

/-! ## Equal values -/

theorem Value.eq_absent_of_equals {value : Value} (hequals : Value.absent.equals value = true) :
    value = .absent := by
  cases value with
  | absent => rfl
  | _ => simp [equals] at hequals

theorem Value.exists_of_equals_collection {items : List Value} {value : Value}
    (hequals : (Value.collection items).equals value = true) :
    ∃ others, value = .collection others ∧ equalItems items others = true := by
  cases value with
  | collection others => exact ⟨others, rfl, by rwa [equals] at hequals⟩
  | _ => simp [equals] at hequals

theorem Value.eq_of_equalItems {items others : List Value}
    (hexact : ∀ item ∈ items, ∀ other, item.equals other = true → other = item)
    (hequals : equalItems items others = true) : others = items := by
  induction items generalizing others with
  | nil =>
      cases others with
      | nil => rfl
      | cons other more => simp [equalItems] at hequals
  | cons item rest ih =>
      cases others with
      | nil => simp [equalItems] at hequals
      | cons other more =>
          rw [equalItems, Bool.and_eq_true] at hequals
          obtain ⟨hitem, hrest⟩ := List.forall_mem_cons.1 hexact
          have hother : other = item := hitem other hequals.1
          have hmore : more = rest := ih hrest hequals.2
          rw [hother, hmore]

theorem Value.exists_equals_of_equalItems {items others : List Value}
    (hequals : equalItems items others = true) {other : Value} (hother : other ∈ others) :
    ∃ item ∈ items, item.equals other = true := by
  induction items generalizing others with
  | nil =>
      cases others with
      | nil => cases hother
      | cons first more => simp [equalItems] at hequals
  | cons item rest ih =>
      cases others with
      | nil => cases hother
      | cons first more =>
          rw [equalItems, Bool.and_eq_true] at hequals
          rcases List.mem_cons.1 hother with rfl | hmore
          · exact ⟨item, List.mem_cons_self, hequals.1⟩
          · obtain ⟨found, hfound, hequal⟩ := ih hequals.2 hmore
            exact ⟨found, List.mem_cons_of_mem _ hfound, hequal⟩

theorem ElementType.eq_toValue_of_equals {type : ElementType} (hexact : type.IsExact)
    (content : type.model.Carrier) {value : Value}
    (hequals : (type.model.toValue content).equals value = true) :
    value = type.model.toValue content := by
  cases type with
  | double => exact hexact.elim
  | path => exact hexact.elim
  | classRef bound? => exact hexact.elim
  | factory interface => exact hexact.elim
  | _ =>
      -- Values of different shapes never count as equal.
      cases value <;>
        first
        | exact congrArg _ (eq_of_beq hequals).symm
        | cases hequals

namespace FieldType

theorem eq_toValue_of_equals {type : FieldType} (hexact : type.leaf.IsExact)
    (content : type.Carrier) {value : Value}
    (hequals : (type.toValue content).equals value = true) : value = type.toValue content := by
  induction type using shape_induction generalizing value with
  | element type => exact type.eq_toValue_of_equals hexact content hequals
  | nullable type ih =>
      cases content with
      | none => exact Value.eq_absent_of_equals hequals
      | some content => exact ih hexact content hequals
  | collection type items hitems ih =>
      obtain ⟨contents, hcontents⟩ := toValue_of_items? hitems content
      rw [hcontents] at hequals ⊢
      obtain ⟨others, rfl, hothers⟩ := Value.exists_of_equals_collection hequals
      rw [leaf_of_items? hitems] at hexact
      congr 1
      apply Value.eq_of_equalItems _ hothers
      intro item hitem other hother
      obtain ⟨element, -, rfl⟩ := List.mem_map.1 hitem
      exact ih hexact element hother

/-- A dynamic value that equals the content of a field stands for this very content. -/
theorem IsExact.ofValue?_of_equals {type : FieldType} (hexact : type.IsExact)
    {content : type.Carrier} {value : Value}
    (hequals : (type.toValue content).equals value = true) :
    type.ofValue? value = some content := by
  rw [eq_toValue_of_equals hexact.leaf content hequals]
  exact ofValue?_toValue hexact.reversible content

end FieldType

/-! ## Shapes of equal values -/

/-- A value that equals one of an element type has its shape.  Only a class may bear the name of
one with a factory and have none itself. -/
theorem ElementType.accepts_of_equals {type : ElementType}
    (hfactory : ∀ interface, type ≠ .factory interface) (content : type.model.Carrier)
    {value : Value} (hequals : (type.model.toValue content).equals value = true) :
    type.model.Accepts value := by
  cases type with
  | factory interface => exact absurd rfl (hfactory interface)
  | enumeration constants =>
      have hexact : (ElementType.enumeration constants).IsExact := trivial
      rw [eq_toValue_of_equals hexact content hequals]
      exact accepts_toValue _ content
  | _ =>
      -- Values of different shapes never count as equal.
      cases value <;>
        first
        | rfl
        | cases hequals

theorem FieldType.accepts_of_equals {type : FieldType}
    (hfactory : ∀ interface, type.leaf ≠ .factory interface) (content : type.Carrier)
    {value : Value} (hequals : (type.toValue content).equals value = true) :
    type.Accepts value := by
  induction type using shape_induction generalizing value with
  | element type => exact type.accepts_of_equals hfactory content hequals
  | nullable type ih =>
      rw [accepts_nullable_iff]
      cases content with
      | none => exact Or.inl (Value.eq_absent_of_equals hequals)
      | some content => exact Or.inr (ih hfactory content hequals)
  | collection type items hitems ih =>
      obtain ⟨contents, hcontents⟩ := toValue_of_items? hitems content
      rw [hcontents] at hequals
      obtain ⟨others, rfl, hothers⟩ := Value.exists_of_equals_collection hequals
      rw [leaf_of_items? hitems] at hfactory
      rw [accepts_collection_iff hitems]
      refine ⟨others, rfl, fun other hother => ?_⟩
      obtain ⟨item, hitem, hequal⟩ := Value.exists_equals_of_equalItems hothers hother
      obtain ⟨element, -, rfl⟩ := List.mem_map.1 hitem
      exact ih hfactory element hequal

end TypedOptions
