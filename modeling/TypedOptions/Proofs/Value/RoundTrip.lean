import TypedOptions.Proofs.Value.Shapes

/-!
# From typed values to dynamic ones and back

What a field holds comes back from its dynamic value: a collection is put
together again by adding its items in the order in which they are listed.
Two things are lost on the way, which of two constants of the same name was
meant, and whether a value is missing once or twice over.
-/

namespace TypedOptions

/-! ## Collections put together again -/

namespace DistinctList

variable {α : Type} {same : α → α → Bool}

theorem eq_of_toList {first second : DistinctList α same} (htoList : first.toList = second.toList) :
    first = second := by
  cases first
  cases second
  cases htoList
  rfl

theorem toList_push_of_distinct {items : DistinctList α same} {item : α}
    (hdistinct : ∀ other ∈ items.toList, same other item = false) :
    (items.push item).toList = items.toList ++ [item] := by
  have hnew : ¬items.toList.any (same · item) = true := by
    simpa using hdistinct
  rw [push, dif_neg hnew]

theorem toList_foldl_push {items : DistinctList α same} {more : List α}
    (hdistinct : (items.toList ++ more).Pairwise fun earlier later => same earlier later = false) :
    (more.foldl push items).toList = items.toList ++ more := by
  induction more generalizing items with
  | nil => simp
  | cons item rest ih =>
      have hpush : (items.push item).toList = items.toList ++ [item] := by
        apply toList_push_of_distinct
        intro other hother
        exact (List.pairwise_append.1 hdistinct).2.2 other hother item List.mem_cons_self
      have hrest : (items.toList ++ [item]) ++ rest = items.toList ++ item :: rest := by
        simp
      rw [List.foldl_cons, ih, hpush, hrest]
      rwa [hpush, hrest]

theorem ofList_toList (items : DistinctList α same) : ofList items.toList = items := by
  apply eq_of_toList
  exact toList_foldl_push items.distinct

end DistinctList

namespace SortedList

variable {α : Type} {order : α → α → Ordering}

theorem eq_of_toList {first second : SortedList α order} (htoList : first.toList = second.toList) :
    first = second := by
  cases first
  cases second
  cases htoList
  rfl

theorem insertInto_of_greater [Std.TransCmp order] {item : α} {items : List α}
    (hgreater : ∀ other ∈ items, order other item = .lt) :
    insertInto order item items = items ++ [item] := by
  induction items with
  | nil => rfl
  | cons first rest ih =>
      obtain ⟨hfirst, hrest⟩ := List.forall_mem_cons.1 hgreater
      have hgt : order item first = .gt := Std.OrientedCmp.gt_of_lt hfirst
      simp only [insertInto, hgt, ih hrest, List.cons_append]

theorem toList_foldl_insert [Std.TransCmp order] {items : SortedList α order} {more : List α}
    (hascending : (items.toList ++ more).Pairwise fun earlier later =>
      order earlier later = .lt) :
    (more.foldl insert items).toList = items.toList ++ more := by
  induction more generalizing items with
  | nil => simp
  | cons item rest ih =>
      have hinsert : (items.insert item).toList = items.toList ++ [item] := by
        apply insertInto_of_greater
        intro other hother
        exact (List.pairwise_append.1 hascending).2.2 other hother item List.mem_cons_self
      have hrest : (items.toList ++ [item]) ++ rest = items.toList ++ item :: rest := by
        simp
      rw [List.foldl_cons, ih, hinsert, hrest]
      rwa [hinsert, hrest]

theorem ofList_toList [Std.TransCmp order] (items : SortedList α order) :
    ofList items.toList = items := by
  apply eq_of_toList
  exact toList_foldl_insert items.ascending

end SortedList

namespace Bag

variable {α : Type} {order : α → α → Ordering}

theorem eq_of_entries {first second : Bag α order} (hentries : first.entries = second.entries) :
    first = second := by
  cases first
  cases second
  cases hentries
  rfl

theorem insertInto_of_greater [Std.TransCmp order] {item : α} {entries : List (α × Nat)}
    (hgreater : ∀ entry ∈ entries, order entry.1 item = .lt) :
    insertInto order item entries = entries ++ [(item, 1)] := by
  induction entries with
  | nil => rfl
  | cons entry rest ih =>
      obtain ⟨first, count⟩ := entry
      obtain ⟨hfirst, hrest⟩ := List.forall_mem_cons.1 hgreater
      have hgt : order item first = .gt := Std.OrientedCmp.gt_of_lt hfirst
      simp only [insertInto, hgt, ih hrest, List.cons_append]

theorem insertInto_again [Std.TransCmp order] {item : α} {entries : List (α × Nat)} (count : Nat)
    (hgreater : ∀ entry ∈ entries, order entry.1 item = .lt) :
    insertInto order item (entries ++ [(item, count)]) = entries ++ [(item, count + 1)] := by
  induction entries with
  | nil =>
      have hself : order item item = .eq := Std.ReflCmp.compare_self
      simp only [List.nil_append, insertInto, hself]
  | cons entry rest ih =>
      obtain ⟨first, number⟩ := entry
      obtain ⟨hfirst, hrest⟩ := List.forall_mem_cons.1 hgreater
      have hgt : order item first = .gt := Std.OrientedCmp.gt_of_lt hfirst
      simp only [List.cons_append, insertInto, hgt, ih hrest]

theorem entries_foldl_replicate [Std.TransCmp order] {bag : Bag α order} {item : α}
    {before : List (α × Nat)} {count : Nat} (more : Nat)
    (hentries : bag.entries = before ++ [(item, count)])
    (hgreater : ∀ entry ∈ before, order entry.1 item = .lt) :
    ((List.replicate more item).foldl insert bag).entries = before ++ [(item, count + more)] := by
  induction more generalizing bag count with
  | zero => exact hentries
  | succ more ih =>
      have hinsert : (bag.insert item).entries = before ++ [(item, count + 1)] := by
        change insertInto order item bag.entries = _
        rw [hentries]
        exact insertInto_again count hgreater
      rw [List.replicate_succ, List.foldl_cons, ih hinsert]
      have hcount : count + 1 + more = count + (more + 1) := by omega
      rw [hcount]

/-- The bag grows by one entry after the other, each with all its occurrences. -/
theorem entries_foldl_insert [Std.TransCmp order] {bag : Bag α order} {more : List (α × Nat)}
    (hascending : (bag.entries ++ more).Pairwise fun earlier later =>
      order earlier.1 later.1 = .lt)
    (hpositive : ∀ entry ∈ more, 0 < entry.2) :
    ((more.flatMap fun entry => List.replicate entry.2 entry.1).foldl insert bag).entries =
      bag.entries ++ more := by
  induction more generalizing bag with
  | nil => simp
  | cons entry rest ih =>
      obtain ⟨item, count⟩ := entry
      obtain ⟨hcount, hrest⟩ := List.forall_mem_cons.1 hpositive
      have hgreater : ∀ other ∈ bag.entries, order other.1 item = .lt := by
        intro other hother
        exact (List.pairwise_append.1 hascending).2.2 other hother (item, count)
          List.mem_cons_self
      have hfirst : (bag.insert item).entries = bag.entries ++ [(item, 1)] :=
        insertInto_of_greater hgreater
      obtain ⟨before, rfl⟩ : ∃ before, count = before + 1 := ⟨count - 1, by omega⟩
      have hitem : ((List.replicate (before + 1) item).foldl insert bag).entries =
          bag.entries ++ [(item, before + 1)] := by
        rw [List.replicate_succ, List.foldl_cons, entries_foldl_replicate before hfirst hgreater,
          Nat.add_comm]
      have hsplit : (bag.entries ++ [(item, before + 1)]) ++ rest =
          bag.entries ++ (item, before + 1) :: rest := by
        simp
      rw [List.flatMap_cons, List.foldl_append, ih, hitem, hsplit]
      · rwa [hitem, hsplit]
      · exact hrest

theorem ofList_toList [Std.TransCmp order] (bag : Bag α order) : ofList bag.toList = bag := by
  apply eq_of_entries
  exact entries_foldl_insert bag.ascending bag.positive

end Bag

/-! ## Values without repetition -/

namespace Value

theorem dropEqual_eq (items : List Value) :
    dropEqual items = (DistinctList.ofList items : DistinctList Value equals).toList := by
  unfold dropEqual DistinctList.ofList
  rw [← List.foldl_hom DistinctList.toList]
  · rfl
  · intro kept item
    unfold DistinctList.push
    split <;> rfl

theorem dropEqual_dropEqual (items : List Value) :
    dropEqual (dropEqual items) = dropEqual items := by
  rw [dropEqual_eq items, dropEqual_eq, DistinctList.ofList_toList]

end Value

/-! ## Fields -/

namespace FieldModel

/-- What is held comes back from its dynamic value. -/
def Reverses (model : FieldModel) : Prop :=
  ∀ content, model.ofValue? (model.toValue content) = some content

variable {model : FieldModel}

theorem itemsOf?_collectionOf {items : List model.Carrier}
    (hitems : ∀ item ∈ items, model.ofValue? (model.toValue item) = some item) :
    itemsOf? model (collectionOf model items) = some items := by
  change (items.map model.toValue).mapM model.ofValue? = some items
  induction items with
  | nil => rfl
  | cons item rest ih =>
      obtain ⟨hitem, hrest⟩ := List.forall_mem_cons.1 hitems
      simp [hitem, ih hrest]

theorem Reverses.itemsOf?_collectionOf (hmodel : model.Reverses) (items : List model.Carrier) :
    itemsOf? model (collectionOf model items) = some items :=
  FieldModel.itemsOf?_collectionOf fun item _ => hmodel item

theorem Reverses.list (hmodel : model.Reverses) : model.list.Reverses :=
  hmodel.itemsOf?_collectionOf

theorem Reverses.set (hmodel : model.Reverses) : model.set.Reverses := by
  intro content
  change (itemsOf? model (collectionOf model content.toList)).map DistinctList.ofList = _
  rw [hmodel.itemsOf?_collectionOf, Option.map_some]
  exact congrArg some (DistinctList.ofList_toList content)

theorem Reverses.sortedSet (hmodel : model.Reverses) : model.sortedSet.Reverses := by
  intro content
  change (itemsOf? model (collectionOf model content.toList)).map SortedList.ofList = _
  rw [hmodel.itemsOf?_collectionOf, Option.map_some]
  exact congrArg some (SortedList.ofList_toList content)

theorem Reverses.bag (hmodel : model.Reverses) : model.bag.Reverses := by
  intro content
  change (itemsOf? model (collectionOf model content.toList)).map Bag.ofList = _
  rw [hmodel.itemsOf?_collectionOf, Option.map_some]
  exact congrArg some (Bag.ofList_toList content)

theorem ofValue?_nullable {value : Value} (hpresent : value ≠ .absent) :
    model.nullable.ofValue? value = (model.ofValue? value).map some := by
  cases value with
  | absent => exact absurd rfl hpresent
  | _ => rfl

theorem Reverses.nullable (hmodel : model.Reverses)
    (hpresent : ∀ content, model.toValue content ≠ .absent) : model.nullable.Reverses := by
  intro content
  cases content with
  | none => rfl
  | some content =>
      change model.nullable.ofValue? (model.toValue content) = some (some content)
      rw [ofValue?_nullable (hpresent content), hmodel content]
      rfl

theorem reverses_enumeration {constants : Enumeration} (hdistinct : constants.constants.Nodup) :
    (enumeration constants).Reverses := by
  intro (index : Fin constants.constants.length)
  change constants.constants.finIdxOf? constants.constants[index] = some index
  rw [List.finIdxOf?_eq_some_iff]
  refine ⟨rfl, fun earlier hearlier heq => ?_⟩
  have hless : earlier.val < index.val := hearlier
  exact List.pairwise_iff_getElem.1 hdistinct _ _ earlier.isLt index.isLt hless heq

end FieldModel

/-- No two constants of an enumeration have the same name. -/
def ElementType.HasDistinctNames : ElementType → Prop
  | .enumeration constants => constants.constants.Nodup
  | _ => True

theorem ElementType.reverses {type : ElementType} (hdistinct : type.HasDistinctNames) :
    type.model.Reverses := by
  cases type with
  | enumeration constants => exact FieldModel.reverses_enumeration hdistinct
  | factory interface => exact Factory.ofClass?_entry
  | _ => exact fun _ => rfl

theorem ElementType.toValue_ne_absent (type : ElementType) (content : type.model.Carrier) :
    type.model.toValue content ≠ .absent := by
  cases type <;> nofun

namespace FieldType

/-- Nothing that a field of the type holds is lost in its dynamic value: constants have names of
their own, and a value that may be missing is not one that may be missing itself. -/
def Reversible : FieldType → Prop
  | .element type => type.HasDistinctNames
  | .nullable type => type.isNullable = false ∧ type.Reversible
  | .list type => type.Reversible
  | .array type => type.Reversible
  | .set type => type.Reversible
  | .sortedSet type => type.Reversible
  | .bag type => type.Reversible

theorem toValue_ne_absent {type : FieldType} (hpresent : type.isNullable = false)
    (content : type.Carrier) : type.toValue content ≠ .absent := by
  cases type with
  | element type => exact type.toValue_ne_absent content
  | nullable type => cases hpresent
  | _ => nofun

theorem reverses {type : FieldType} (hreversible : type.Reversible) : type.model.Reverses := by
  induction type with
  | element type => exact ElementType.reverses hreversible
  | nullable type ih =>
      exact (ih hreversible.2).nullable fun content => toValue_ne_absent hreversible.1 content
  | list type ih => exact (ih hreversible).list
  | array type ih => exact (ih hreversible).list
  | set type ih => exact (ih hreversible).set
  | sortedSet type ih => exact (ih hreversible).sortedSet
  | bag type ih => exact (ih hreversible).bag

theorem ofValue?_toValue {type : FieldType} (hreversible : type.Reversible)
    (content : type.Carrier) : type.ofValue? (type.toValue content) = some content :=
  reverses hreversible content

end FieldType

end TypedOptions
