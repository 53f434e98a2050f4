import TypedOptions.Proofs.Value.RoundTrip

/-!
# What fields hold of what they are given

A field that is made of elements and lists holds a dynamic value as it is.  A
sorted set and a bag hold the same elements, but list them in ascending order,
the set each of them once and the bag each of them as often as it was given.
-/

namespace TypedOptions

/-! ## Lists in ascending order -/

section Listing

variable {α : Type}

/-- The elements in ascending order, and of equal ones a single one. -/
structure ListsOnce (order : α → α → Ordering) (items listed : List α) : Prop where
  ascending : listed.Pairwise fun earlier later => order earlier later = .lt
  subset : ∀ item ∈ listed, item ∈ items
  complete : ∀ item ∈ items, ∃ other ∈ listed, order item other = .eq

/-- The elements in ascending order, and of equal ones as many as there are. -/
structure ListsEach (order : α → α → Ordering) (items listed : List α) : Prop where
  ascending : listed.Pairwise fun earlier later => (order earlier later).isLE = true
  subset : ∀ item ∈ listed, item ∈ items
  countP_eq : ∀ item,
    listed.countP (fun other => order item other == .eq) =
      items.countP fun other => order item other == .eq

end Listing

namespace SortedList

variable {α : Type} {order : α → α → Ordering} [Std.TransCmp order]

/-- What is inserted takes the place of an equal element, so that one is always there. -/
theorem exists_mem_insertInto {item other : α} {items : List α}
    (hother : other = item ∨ other ∈ items) :
    ∃ kept ∈ insertInto order item items, order other kept = .eq := by
  have hself : ∀ element, order element element = .eq := fun _ => Std.ReflCmp.compare_self
  induction items with
  | nil =>
      rcases hother with rfl | hmem
      · exact ⟨other, List.mem_singleton_self other, hself other⟩
      · cases hmem
  | cons first rest ih =>
      simp only [insertInto]
      split
      · exact ⟨other, List.mem_cons.2 hother, hself other⟩
      · rename_i heq
        rcases hother with rfl | hmem
        · exact ⟨other, List.mem_cons_self, hself other⟩
        · rcases List.mem_cons.1 hmem with rfl | hrest
          · exact ⟨item, List.mem_cons_self, Std.OrientedCmp.eq_symm heq⟩
          · exact ⟨other, List.mem_cons_of_mem _ hrest, hself other⟩
      · by_cases hfirst : other = first
        · exact ⟨first, List.mem_cons_self, hfirst ▸ hself other⟩
        · have hrest : other = item ∨ other ∈ rest :=
            hother.imp_right fun hmem => (List.mem_cons.1 hmem).resolve_left hfirst
          obtain ⟨kept, hkept, heq⟩ := ih hrest
          exact ⟨kept, List.mem_cons_of_mem _ hkept, heq⟩

theorem mem_toList_foldl_insert {items : List α} {start : SortedList α order} {item : α}
    (hitem : item ∈ (items.foldl insert start).toList) : item ∈ start.toList ∨ item ∈ items := by
  induction items generalizing start with
  | nil => exact Or.inl hitem
  | cons first rest ih =>
      rcases ih hitem with hinserted | hrest
      · rcases mem_insertInto hinserted with rfl | hstart
        · exact Or.inr List.mem_cons_self
        · exact Or.inl hstart
      · exact Or.inr (List.mem_cons_of_mem _ hrest)

theorem exists_mem_foldl_insert {items : List α} {start : SortedList α order} {item : α}
    (hitem : item ∈ start.toList ∨ item ∈ items) :
    ∃ kept ∈ (items.foldl insert start).toList, order item kept = .eq := by
  induction items generalizing start item with
  | nil =>
      have hstart : item ∈ start.toList := hitem.resolve_right (List.not_mem_nil)
      exact ⟨item, hstart, Std.ReflCmp.compare_self⟩
  | cons first rest ih =>
      rw [List.mem_cons, ← or_assoc] at hitem
      rcases hitem with hearlier | hrest
      · -- The element that stands for it so far may be replaced later on.
        obtain ⟨between, hbetween, hfirst⟩ :
            ∃ between ∈ (start.insert first).toList, order item between = .eq :=
          exists_mem_insertInto hearlier.symm
        obtain ⟨kept, hkept, hsecond⟩ := ih (Or.inl hbetween)
        exact ⟨kept, hkept, Std.TransCmp.eq_trans hfirst hsecond⟩
      · exact ih (Or.inr hrest)

theorem listsOnce_ofList (items : List α) :
    ListsOnce order items (ofList items : SortedList α order).toList where
  ascending := (ofList items).ascending
  subset _ hitem := (mem_toList_foldl_insert hitem).resolve_left List.not_mem_nil
  complete _ hitem := exists_mem_foldl_insert (Or.inr hitem)

end SortedList

namespace Bag

variable {α : Type} {order : α → α → Ordering}

/-- The elements of entries, each as often as it is counted. -/
def occurrences (entries : List (α × Nat)) : List α :=
  entries.flatMap fun entry => List.replicate entry.2 entry.1

theorem toList_eq_occurrences (bag : Bag α order) : bag.toList = occurrences bag.entries :=
  rfl

theorem occurrences_cons (entry : α × Nat) (rest : List (α × Nat)) :
    occurrences (entry :: rest) = List.replicate entry.2 entry.1 ++ occurrences rest :=
  List.flatMap_cons

theorem mem_occurrences {entries : List (α × Nat)} {item : α}
    (hitem : item ∈ occurrences entries) : ∃ entry ∈ entries, entry.1 = item := by
  obtain ⟨entry, hentry, hreplicated⟩ := List.mem_flatMap.1 hitem
  exact ⟨entry, hentry, (List.eq_of_mem_replicate hreplicated).symm⟩

/-- One more element is counted, wherever it goes. -/
theorem countP_occurrences_insertInto {counts : α → Bool}
    (hcounts : ∀ first second, order first second = .eq → counts first = counts second)
    (item : α) (entries : List (α × Nat)) :
    (occurrences (insertInto order item entries)).countP counts =
      (occurrences entries).countP counts + if counts item then 1 else 0 := by
  induction entries with
  | nil => simp [insertInto, occurrences, List.countP_singleton]
  | cons entry rest ih =>
      obtain ⟨first, number⟩ := entry
      simp only [insertInto]
      split
      · rw [occurrences_cons, List.countP_append, List.replicate_one, List.countP_singleton,
          Nat.add_comm]
      · rename_i heq
        have hsame : counts item = counts first := hcounts item first heq
        rw [occurrences_cons, occurrences_cons, List.countP_append, List.countP_append,
          List.replicate_succ, List.countP_cons, hsame]
        dsimp only
        omega
      · rw [occurrences_cons, occurrences_cons, List.countP_append, List.countP_append, ih,
          Nat.add_assoc]

variable [Std.TransCmp order]

theorem isLE_toList (bag : Bag α order) :
    bag.toList.Pairwise fun earlier later => (order earlier later).isLE = true := by
  rw [toList_eq_occurrences, occurrences, List.pairwise_flatMap]
  constructor
  · intro entry _
    have hself : order entry.1 entry.1 = .eq := Std.ReflCmp.compare_self
    exact List.pairwise_replicate.2 (Or.inr (by rw [hself]; rfl))
  · refine bag.ascending.imp fun {earlier later} hless item hitem other hother => ?_
    rw [List.eq_of_mem_replicate hitem, List.eq_of_mem_replicate hother, hless]
    rfl

theorem mem_occurrences_foldl_insert {items : List α} {start : Bag α order} {item : α}
    (hitem : ∃ entry ∈ (items.foldl insert start).entries, entry.1 = item) :
    (∃ entry ∈ start.entries, entry.1 = item) ∨ item ∈ items := by
  induction items generalizing start with
  | nil => exact Or.inl hitem
  | cons first rest ih =>
      rcases ih hitem with ⟨entry, hentry, rfl⟩ | hrest
      · rcases fst_of_mem_insertInto hentry with heq | ⟨other, hother, heq⟩
        · exact Or.inr (heq ▸ List.mem_cons_self)
        · exact Or.inl ⟨other, hother, heq.symm⟩
      · exact Or.inr (List.mem_cons_of_mem _ hrest)

theorem countP_toList_foldl_insert {counts : α → Bool}
    (hcounts : ∀ first second, order first second = .eq → counts first = counts second)
    (items : List α) (start : Bag α order) :
    (items.foldl insert start).toList.countP counts =
      start.toList.countP counts + items.countP counts := by
  induction items generalizing start with
  | nil => rfl
  | cons item rest ih =>
      have hitem : (start.insert item).toList.countP counts =
          start.toList.countP counts + if counts item then 1 else 0 :=
        countP_occurrences_insertInto hcounts item start.entries
      rw [List.foldl_cons, ih, hitem, List.countP_cons]
      omega

theorem listsEach_ofList (items : List α) :
    ListsEach order items (ofList items : Bag α order).toList where
  ascending := isLE_toList (ofList items)
  subset item hitem := by
    rcases mem_occurrences_foldl_insert (mem_occurrences hitem) with ⟨entry, hentry, -⟩ | hmem
    · cases hentry
    · exact hmem
  countP_eq item := by
    have hcounts : ∀ first second, order first second = .eq →
        (order item first == .eq) = (order item second == .eq) := by
      intro first second heq
      rw [Std.TransCmp.congr_right heq]
    have hcount := countP_toList_foldl_insert hcounts items Bag.empty
    rw [show (Bag.empty : Bag α order).toList = [] from rfl, List.countP_nil, Nat.zero_add]
      at hcount
    exact hcount

end Bag

/-! ## Fields -/

namespace FieldModel

/-- A dynamic value that stands for a typed one is what this one becomes. -/
def Retains (model : FieldModel) : Prop :=
  ∀ value content, model.ofValue? value = some content → model.toValue content = value

variable {model : FieldModel}

theorem Retains.eq_map (hmodel : model.Retains) {values : List Value}
    {contents : List model.Carrier} (hcontents : values.mapM model.ofValue? = some contents) :
    values = contents.map model.toValue := by
  induction values generalizing contents with
  | nil =>
      cases hcontents
      rfl
  | cons value rest ih =>
      rw [List.mapM_cons] at hcontents
      obtain ⟨content, hcontent, hmore⟩ := Option.bind_eq_some_iff.1 hcontents
      obtain ⟨more, hrest, hall⟩ := Option.bind_eq_some_iff.1 hmore
      cases hall
      rw [List.map_cons, hmodel value content hcontent, ← ih hrest]

theorem Retains.eq_collectionOf (hmodel : model.Retains) {value : Value}
    {contents : List model.Carrier} (hcontents : itemsOf? model value = some contents) :
    value = collectionOf model contents := by
  cases value with
  | collection values => exact congrArg Value.collection (hmodel.eq_map hcontents)
  | _ => cases hcontents

theorem Retains.list (hmodel : model.Retains) : model.list.Retains :=
  fun _ _ hcontents => (hmodel.eq_collectionOf hcontents).symm

theorem Retains.nullable (hmodel : model.Retains) : model.nullable.Retains := by
  intro value content hcontent
  by_cases habsent : value = .absent
  · subst habsent
    cases hcontent
    rfl
  · rw [ofValue?_nullable habsent] at hcontent
    obtain ⟨present, hpresent, rfl⟩ := Option.map_eq_some_iff.1 hcontent
    exact hmodel value present hpresent

/-- A sorted set lists what it was given, each element once. -/
theorem Retains.listsOnce (hmodel : model.Retains) {value : Value}
    {content : model.sortedSet.Carrier} (hcontent : model.sortedSet.ofValue? value = some content) :
    ∃ items listed, value = collectionOf model items ∧
      model.sortedSet.toValue content = collectionOf model listed ∧
      ListsOnce model.order items listed := by
  obtain ⟨items, hitems, rfl⟩ := Option.map_eq_some_iff.1 hcontent
  exact ⟨items, _, hmodel.eq_collectionOf hitems, rfl, SortedList.listsOnce_ofList items⟩

/-- A bag lists what it was given, each element as often as it was. -/
theorem Retains.listsEach (hmodel : model.Retains) {value : Value} {content : model.bag.Carrier}
    (hcontent : model.bag.ofValue? value = some content) :
    ∃ items listed, value = collectionOf model items ∧
      model.bag.toValue content = collectionOf model listed ∧
      ListsEach model.order items listed := by
  obtain ⟨items, hitems, rfl⟩ := Option.map_eq_some_iff.1 hcontent
  exact ⟨items, _, hmodel.eq_collectionOf hitems, rfl, Bag.listsEach_ofList items⟩

theorem retains_enumeration (constants : Enumeration) : (enumeration constants).Retains := by
  intro value (index : Fin constants.constants.length) hindex
  cases value with
  | constant name =>
      have hfound : constants.constants.finIdxOf? name = some index := hindex
      have hname : constants.constants[index] = name := (List.finIdxOf?_eq_some_iff.1 hfound).1
      exact congrArg Value.constant hname
  | _ => cases hindex

theorem retains_factory (interface : Interface) : (factory interface).Retains := by
  intro value content hcontent
  cases value with
  | classRef entry => exact congrArg Value.classRef (Factory.entry_of_ofClass? hcontent)
  | _ => cases hcontent

end FieldModel

theorem ElementType.retains (type : ElementType) : type.model.Retains := by
  cases type with
  | enumeration constants => exact FieldModel.retains_enumeration constants
  | factory interface => exact FieldModel.retains_factory interface
  | _ =>
      -- A value of another shape stands for nothing.
      intro value content hcontent
      cases value <;> first | (cases hcontent; rfl) | cases hcontent

namespace FieldType

/-- The type is made of elements, values that may be missing, and lists. -/
def IsVerbatim : FieldType → Prop
  | .element _ => True
  | .nullable type => type.IsVerbatim
  | .list type => type.IsVerbatim
  | .array type => type.IsVerbatim
  | _ => False

theorem retains {type : FieldType} (hverbatim : type.IsVerbatim) : type.model.Retains := by
  induction type with
  | element type => exact type.retains
  | nullable type ih => exact (ih hverbatim).nullable
  | list type ih => exact (ih hverbatim).list
  | array type ih => exact (ih hverbatim).list
  | set type ih => exact hverbatim.elim
  | sortedSet type ih => exact hverbatim.elim
  | bag type ih => exact hverbatim.elim

/-- What a field holds comes back from its dynamic value, and a field that is made of elements and
lists turns into the very value that it was given.  A sorted set or a bag of such contents turns
into the list of its elements in ascending order, in which a set has each of them once and a bag
each of them as often as it was given. -/
theorem carried_there_and_back (type : FieldType) :
    (type.Reversible → ∀ content, type.ofValue? (type.toValue content) = some content) ∧
    (type.IsVerbatim → ∀ value,
      (∀ content, type.ofValue? value = some content → type.toValue content = value) ∧
      (∀ content, (sortedSet type).ofValue? value = some content →
        ∃ items listed, value = .collection (items.map type.toValue) ∧
          (sortedSet type).toValue content = .collection (listed.map type.toValue) ∧
          ListsOnce type.model.order items listed) ∧
      ∀ content, (bag type).ofValue? value = some content →
        ∃ items listed, value = .collection (items.map type.toValue) ∧
          (bag type).toValue content = .collection (listed.map type.toValue) ∧
          ListsEach type.model.order items listed) := by
  refine ⟨fun hreversible => ofValue?_toValue hreversible, fun hverbatim value => ?_⟩
  have hretains := retains hverbatim
  refine ⟨hretains value, ?_, ?_⟩
  · intro content hcontent
    exact hretains.listsOnce hcontent
  · intro content hcontent
    exact hretains.listsEach hcontent

end FieldType

/-! ## A sample -/

namespace ListingSample

open FieldType

def mode : Enumeration :=
  ⟨"Mode", ["SLOW", "FAST"]⟩

/-- Lists of constants, some of which may be missing. -/
def modes : FieldType :=
  .list (.nullable (.element (.enumeration mode)))

def fastOrNone : modes.Carrier :=
  [some (1 : Fin 2), none]

/-- Two spellings of one path behind another path. -/
def spellings : Value :=
  .collection [.path ⟨"b"⟩, .path ⟨"a//b"⟩, .path ⟨"a/b"⟩]

theorem carried_there_and_back_sample :
    (modes.Reversible ∧ modes.ofValue? (modes.toValue fastOrNone) = some fastOrNone) ∧
    (modes.IsVerbatim ∧ modes.ofValue? (.collection [.constant "FAST", .absent]) = some fastOrNone ∧
      modes.toValue fastOrNone = .collection [.constant "FAST", .absent]) ∧
    (∃ content, (sortedSet (.element .path)).ofValue? spellings = some content ∧
      ∃ items listed, spellings = .collection (items.map (FieldType.element .path).toValue) ∧
        (sortedSet (.element .path)).toValue content =
          .collection (listed.map (FieldType.element .path).toValue) ∧
        ListsOnce Path.order items listed) ∧
    ∃ content, (bag (.element .path)).ofValue? spellings = some content ∧
      ∃ items listed, spellings = .collection (items.map (FieldType.element .path).toValue) ∧
        (bag (.element .path)).toValue content =
          .collection (listed.map (FieldType.element .path).toValue) ∧
        ListsEach Path.order items listed := by
  have hreversible : modes.Reversible := by
    refine ⟨rfl, ?_⟩
    change mode.constants.Nodup
    decide
  have hverbatim : modes.IsVerbatim := trivial
  have hread : modes.ofValue? (.collection [.constant "FAST", .absent]) = some fastOrNone := rfl
  have hset : ((sortedSet (.element .path)).ofValue? spellings).isSome = true := rfl
  have hbag : ((bag (.element .path)).ofValue? spellings).isSome = true := rfl
  obtain ⟨set, hset⟩ := Option.isSome_iff_exists.1 hset
  obtain ⟨bag, hbag⟩ := Option.isSome_iff_exists.1 hbag
  obtain ⟨hback, hthere⟩ := carried_there_and_back modes
  obtain ⟨-, honce, heach⟩ := (carried_there_and_back (.element .path)).2 trivial spellings
  exact ⟨⟨hreversible, hback hreversible fastOrNone⟩,
    ⟨hverbatim, hread, (hthere hverbatim _).1 fastOrNone hread⟩,
    ⟨set, hset, honce set hset⟩, bag, hbag, heach bag hbag⟩

end ListingSample

end TypedOptions
