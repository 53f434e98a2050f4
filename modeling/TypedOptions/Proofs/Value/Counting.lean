import Mathlib.Algebra.Order.Ring.Nat
import Mathlib.Data.List.Forall2
import TypedOptions.Proofs.Value.Listing

/-!
# Bags count what was inserted

However a bag came about, it counts for every element how many equal ones were
inserted.  These numbers determine it up to the choice among equal elements,
so the order of the insertions does not matter, and neither does the way
through a dynamic value, which lists what was inserted in ascending order.
-/

namespace TypedOptions

/-! ## Lists with the same counts -/

section Counts

variable {α : Type} {order : α → α → Ordering}

theorem countP_pos_of_order_eq {items : List α} {item other : α} (hother : other ∈ items)
    (heq : order item other = .eq) : 0 < items.countP fun kept => order item kept == .eq :=
  List.countP_pos_iff.2 ⟨other, hother, by simp [heq]⟩

variable [Std.TransCmp order]

theorem order_self (item : α) : order item item = .eq :=
  Std.ReflCmp.compare_self

/-- Equal elements are counted alike. -/
theorem countP_eq_of_forall₂ {items others : List α}
    (hall : List.Forall₂ (fun item other => order item other = .eq) items others) (item : α) :
    items.countP (fun other => order item other == .eq) =
      others.countP fun other => order item other == .eq := by
  induction hall with
  | nil => rfl
  | @cons first second _ _ heq _ ih =>
      have hsame : order item first = order item second := Std.TransCmp.congr_right heq
      rw [List.countP_cons, List.countP_cons, ih, hsame]

/-- Lists that hold as many of each element are the same up to order and the choice among equal
elements. -/
theorem exists_perm_of_countP_eq {listed items : List α}
    (hcounts : ∀ item, listed.countP (fun other => order item other == .eq) =
      items.countP fun other => order item other == .eq) :
    ∃ row, row.Perm items ∧ List.Forall₂ (fun item other => order item other = .eq) listed row := by
  induction listed generalizing items with
  | nil =>
      cases items with
      | nil => exact ⟨[], .nil, .nil⟩
      | cons item rest =>
          have hself : order item item = .eq := order_self item
          have hpos := countP_pos_of_order_eq (@List.mem_cons_self _ item rest) hself
          rw [← hcounts item] at hpos
          exact absurd hpos (Nat.lt_irrefl 0)
  | cons first rest ih =>
      have hpos : 0 < items.countP fun other => order first other == .eq := by
        rw [← hcounts first]
        exact countP_pos_of_order_eq List.mem_cons_self (order_self first)
      obtain ⟨partner, hpartner, heq⟩ := List.countP_pos_iff.1 hpos
      have heq : order first partner = .eq := by simpa using heq
      obtain ⟨before, after, rfl⟩ := List.append_of_mem hpartner
      have hrest : ∀ item, rest.countP (fun other => order item other == .eq) =
          (before ++ after).countP fun other => order item other == .eq := by
        intro item
        have hitem := hcounts item
        have hsame : order item first = order item partner := Std.TransCmp.congr_right heq
        simp only [List.countP_append, List.countP_cons, hsame] at hitem ⊢
        omega
      obtain ⟨row, hperm, hall⟩ := ih hrest
      exact ⟨partner :: row, (hperm.cons partner).trans List.perm_middle.symm, .cons heq hall⟩

end Counts

namespace Bag

variable {α : Type} {order : α → α → Ordering}

/-! ## Bags that agree -/

/-- Equal elements with the same numbers. -/
def Agrees (first second : Bag α order) : Prop :=
  List.Forall₂ (fun entry other => order entry.1 other.1 = .eq ∧ entry.2 = other.2)
    first.entries second.entries

theorem Agrees.eq [Std.LawfulEqCmp order] {first second : Bag α order}
    (hagrees : first.Agrees second) : first = second := by
  apply eq_of_entries
  rw [← List.forall₂_eq_eq_eq]
  exact hagrees.imp fun _ _ hentry =>
    Prod.ext (Std.LawfulEqCmp.eq_of_compare hentry.1) hentry.2

/-- The number that entries give for an element. -/
def countIn (order : α → α → Ordering) (entries : List (α × Nat)) (item : α) : Nat :=
  (occurrences entries).countP fun other => order item other == .eq

theorem countIn_cons (entry : α × Nat) (rest : List (α × Nat)) (item : α) :
    countIn order (entry :: rest) item =
      (if order item entry.1 = .eq then entry.2 else 0) + countIn order rest item := by
  unfold countIn
  rw [occurrences_cons, List.countP_append, List.countP_replicate]
  simp

/-- An element is not counted by entries of greater elements. -/
theorem countIn_eq_zero {entries : List (α × Nat)} {item : α}
    (hless : ∀ entry ∈ entries, order item entry.1 = .lt) : countIn order entries item = 0 := by
  refine List.countP_eq_zero.2 fun other hother => ?_
  obtain ⟨entry, hentry, rfl⟩ := mem_occurrences hother
  simp [hless entry hentry]

theorem size_eq_length_toList (bag : Bag α order) : bag.size = bag.toList.length := by
  have hentries : ∀ entries : List (α × Nat),
      entries.foldr (fun entry total => entry.2 + total) 0 = (occurrences entries).length := by
    intro entries
    induction entries with
    | nil => rfl
    | cons entry rest ih =>
        rw [List.foldr_cons, ih, occurrences_cons, List.length_append, List.length_replicate]
  exact hentries bag.entries

theorem sum_eq_size (bag : Bag α order) : (bag.entries.map Prod.snd).sum = bag.size := by
  rw [size, List.sum, List.foldr_map]

variable [Std.TransCmp order]

theorem countIn_eq_of_find? {entries : List (α × Nat)}
    (hascending : entries.Pairwise fun earlier later => order earlier.1 later.1 = .lt) (item : α) :
    countIn order entries item =
      ((entries.find? fun entry => order item entry.1 == .eq).map Prod.snd).getD 0 := by
  induction entries with
  | nil => rfl
  | cons entry rest ih =>
      obtain ⟨hfirst, hrest⟩ := List.pairwise_cons.1 hascending
      rw [countIn_cons]
      by_cases heq : order item entry.1 = .eq
      · have hless : ∀ later ∈ rest, order item later.1 = .lt := fun later hlater =>
          Std.TransCmp.lt_of_eq_of_lt heq (hfirst later hlater)
        simp [heq, countIn_eq_zero hless]
      · rw [if_neg heq, List.find?_cons_of_neg (by simpa using heq), Nat.zero_add, ih hrest]

theorem count_eq_countIn (bag : Bag α order) (item : α) :
    bag.count item = countIn order bag.entries item := by
  rw [countIn_eq_of_find? bag.ascending, count]
  cases bag.entries.find? fun entry => order item entry.1 == .eq <;> rfl

/-- Entries in ascending order are known from the numbers that they give. -/
theorem forall₂_of_countIn_eq {entries others : List (α × Nat)}
    (hentries : entries.Pairwise fun earlier later => order earlier.1 later.1 = .lt)
    (hothers : others.Pairwise fun earlier later => order earlier.1 later.1 = .lt)
    (hpositive : ∀ entry ∈ entries, 0 < entry.2) (hpositives : ∀ entry ∈ others, 0 < entry.2)
    (hcounts : ∀ item, countIn order entries item = countIn order others item) :
    List.Forall₂ (fun entry other => order entry.1 other.1 = .eq ∧ entry.2 = other.2)
      entries others := by
  have hhead : ∀ (entry : α × Nat) (rest : List (α × Nat)), 0 < entry.2 →
      0 < countIn order (entry :: rest) entry.1 := by
    intro entry rest hpos
    rw [countIn_cons, if_pos (order_self _)]
    omega
  -- An element less than all of a list is not counted there.
  have hbelow : ∀ {item : α} {entry : α × Nat} {rest : List (α × Nat)},
      (entry :: rest).Pairwise (fun earlier later => order earlier.1 later.1 = .lt) →
      order item entry.1 = .lt → countIn order (entry :: rest) item = 0 := by
    intro item entry rest hascending hless
    refine countIn_eq_zero (List.forall_mem_cons.2 ⟨hless, fun later hlater => ?_⟩)
    exact Std.TransCmp.lt_trans hless ((List.pairwise_cons.1 hascending).1 later hlater)
  induction entries generalizing others with
  | nil =>
      cases others with
      | nil => exact .nil
      | cons other more =>
          have hpos := hhead other more (hpositives other List.mem_cons_self)
          rw [← hcounts other.1] at hpos
          exact absurd hpos (Nat.lt_irrefl 0)
  | cons entry rest ih =>
      have hpos := hhead entry rest (hpositive entry List.mem_cons_self)
      cases others with
      | nil =>
          rw [hcounts entry.1] at hpos
          exact absurd hpos (Nat.lt_irrefl 0)
      | cons other more =>
          obtain ⟨hgreater, hrest⟩ := List.pairwise_cons.1 hentries
          obtain ⟨hgreaters, hmore⟩ := List.pairwise_cons.1 hothers
          have heq : order entry.1 other.1 = .eq := by
            cases hcompare : order entry.1 other.1 with
            | eq => rfl
            | lt =>
                rw [hcounts entry.1, hbelow hothers hcompare] at hpos
                exact absurd hpos (Nat.lt_irrefl 0)
            | gt =>
                have hpositiveOther := hhead other more (hpositives other List.mem_cons_self)
                rw [← hcounts other.1, hbelow hentries (Std.OrientedCmp.lt_of_gt hcompare)]
                  at hpositiveOther
                exact absurd hpositiveOther (Nat.lt_irrefl 0)
          have hnone : countIn order rest entry.1 = 0 := countIn_eq_zero hgreater
          have hnoneOther : countIn order more entry.1 = 0 :=
            countIn_eq_zero fun later hlater =>
              Std.TransCmp.lt_of_eq_of_lt heq (hgreaters later hlater)
          have hnumber : entry.2 = other.2 := by
            have hcount := hcounts entry.1
            rw [countIn_cons, countIn_cons, if_pos (order_self _), if_pos heq, hnone,
              hnoneOther] at hcount
            exact hcount
          refine .cons ⟨heq, hnumber⟩ (ih hrest hmore ?_ ?_ fun item => ?_)
          · exact (List.forall_mem_cons.1 hpositive).2
          · exact (List.forall_mem_cons.1 hpositives).2
          · have hcount := hcounts item
            have hsame : order item entry.1 = order item other.1 := Std.TransCmp.congr_right heq
            rw [countIn_cons, countIn_cons, hsame, hnumber] at hcount
            omega

theorem agrees_of_count_eq {first second : Bag α order}
    (hcounts : ∀ item, first.count item = second.count item) : first.Agrees second := by
  refine forall₂_of_countIn_eq first.ascending second.ascending first.positive second.positive ?_
  intro item
  rw [← count_eq_countIn, ← count_eq_countIn, hcounts]

theorem countIn_of_mem {entries : List (α × Nat)} {entry : α × Nat}
    (hascending : entries.Pairwise fun earlier later => order earlier.1 later.1 = .lt)
    (hentry : entry ∈ entries) : countIn order entries entry.1 = entry.2 := by
  induction entries with
  | nil => cases hentry
  | cons first rest ih =>
      obtain ⟨hfirst, hrest⟩ := List.pairwise_cons.1 hascending
      rw [countIn_cons]
      rcases List.mem_cons.1 hentry with rfl | hmem
      · rw [if_pos (order_self _), countIn_eq_zero hfirst, Nat.add_zero]
      · have hgreater : order entry.1 first.1 = .gt := Std.OrientedCmp.gt_of_lt (hfirst entry hmem)
        rw [hgreater, if_neg nofun, ih hrest hmem, Nat.zero_add]

theorem snd_eq_count {bag : Bag α order} {entry : α × Nat} (hentry : entry ∈ bag.entries) :
    entry.2 = bag.count entry.1 := by
  rw [count_eq_countIn, countIn_of_mem bag.ascending hentry]

/-! ## What was inserted -/

theorem foldl_insert_ofList (items more : List α) :
    more.foldl insert (ofList items) = (ofList (items ++ more) : Bag α order) :=
  List.foldl_append.symm

theorem count_ofList (items : List α) (item : α) :
    (ofList items : Bag α order).count item =
      items.countP fun other => order item other == .eq := by
  rw [count_eq_countIn, countIn, ← toList_eq_occurrences]
  exact (listsEach_ofList items).countP_eq item

/-- All of what was inserted is listed, each element or one that is equal to it. -/
theorem exists_perm_toList_ofList (items : List α) :
    ∃ row, row.Perm items ∧
      List.Forall₂ (fun item other => order item other = .eq) (ofList items : Bag α order).toList
        row :=
  exists_perm_of_countP_eq (listsEach_ofList items).countP_eq

theorem size_ofList (items : List α) : (ofList items : Bag α order).size = items.length := by
  obtain ⟨row, hperm, hall⟩ := @exists_perm_toList_ofList _ order _ items
  rw [size_eq_length_toList, hall.length_eq, hperm.length_eq]

theorem mem_of_mem_entries_ofList {items : List α} {entry : α × Nat}
    (hentry : entry ∈ (ofList items : Bag α order).entries) : entry.1 ∈ items := by
  rcases mem_occurrences_foldl_insert ⟨entry, hentry, rfl⟩ with ⟨other, hother, -⟩ | hmem
  · cases hother
  · exact hmem

/-- What a bag says of the elements that were inserted. -/
structure CountsExactly (inserted : List α) (bag : Bag α order) : Prop where
  count_eq : ∀ item, bag.count item = inserted.countP fun other => order item other == .eq
  size_eq : bag.size = inserted.length
  /-- Each entry stands for an inserted element and its number. -/
  sound : ∀ entry ∈ bag.entries,
    entry.1 ∈ inserted ∧ 0 < entry.2 ∧ entry.2 = bag.count entry.1
  complete : ∀ item ∈ inserted, ∃ entry ∈ bag.entries, order item entry.1 = .eq
  ascending : bag.entries.Pairwise fun earlier later => order earlier.1 later.1 = .lt
  sum_eq : (bag.entries.map Prod.snd).sum = bag.size
  isEmpty_iff : bag.isEmpty = true ↔ inserted = []
  /-- The order of the insertions does not matter. -/
  agrees : ∀ others, others.Perm inserted → (ofList others : Bag α order).Agrees bag
  eq : Std.LawfulEqCmp order → ∀ others, others.Perm inserted → ofList others = bag

theorem countsExactly_ofList (items : List α) :
    CountsExactly items (ofList items : Bag α order) := by
  have hagrees : ∀ others, others.Perm items →
      (ofList others : Bag α order).Agrees (ofList items) := by
    intro others hperm
    refine agrees_of_count_eq fun item => ?_
    rw [count_ofList, count_ofList, hperm.countP_eq]
  have hcomplete : ∀ item ∈ items,
      ∃ entry ∈ (ofList items : Bag α order).entries, order item entry.1 = .eq := by
    intro item hitem
    have hself : order item item = .eq := order_self item
    have hpos := countP_pos_of_order_eq hitem hself
    rw [← count_ofList, count_eq_countIn] at hpos
    obtain ⟨other, hother, heq⟩ := List.countP_pos_iff.1 hpos
    obtain ⟨entry, hentry, rfl⟩ := mem_occurrences hother
    exact ⟨entry, hentry, by simpa using heq⟩
  refine
    { count_eq := count_ofList items
      size_eq := size_ofList items
      sound := fun entry hentry =>
        ⟨mem_of_mem_entries_ofList hentry, (ofList items).positive entry hentry,
          snd_eq_count hentry⟩
      complete := hcomplete
      ascending := (ofList items).ascending
      sum_eq := sum_eq_size _
      isEmpty_iff := ?_
      agrees := hagrees
      eq := fun _ others hperm => (hagrees others hperm).eq }
  rw [isEmpty, List.isEmpty_iff]
  constructor
  · intro hentries
    refine List.eq_nil_iff_forall_not_mem.2 fun item hitem => ?_
    obtain ⟨entry, hentry, -⟩ := hcomplete item hitem
    rw [hentries] at hentry
    cases hentry
  · rintro rfl
    rfl

end Bag

/-! ## Through dynamic values -/

namespace FieldModel

variable {model : FieldModel}

/-- An equal item comes back from the dynamic value of an item. -/
def ComesBack (model : FieldModel) (item : model.Carrier) : Prop :=
  ∃ back, model.ofValue? (model.toValue item) = some back ∧ model.order item back = .eq

/-- What comes back itself comes back as an equal item. -/
theorem Reverses.comesBack (hmodel : model.Reverses) (item : model.Carrier) :
    model.ComesBack item :=
  ⟨item, hmodel item, order_self item⟩

theorem exists_itemsOf?_collectionOf {items : List model.Carrier}
    (hitems : ∀ item ∈ items, model.ComesBack item) :
    ∃ backs, itemsOf? model (collectionOf model items) = some backs ∧
      List.Forall₂ (fun item back => model.order item back = .eq) items backs := by
  change ∃ backs, (items.map model.toValue).mapM model.ofValue? = some backs ∧ _
  induction items with
  | nil => exact ⟨[], rfl, .nil⟩
  | cons item rest ih =>
      obtain ⟨⟨back, hback, heq⟩, hrest⟩ := List.forall_mem_cons.1 hitems
      obtain ⟨backs, hbacks, hall⟩ := ih hrest
      exact ⟨back :: backs, by simp [hback, hbacks], .cons heq hall⟩

/-- A bag of items that come back comes back as one that agrees with it. -/
theorem exists_bag_of_comesBack {bag : Bag model.Carrier model.order}
    (hitems : ∀ item ∈ bag.toList, model.ComesBack item) :
    ∃ rebuilt : Bag model.Carrier model.order,
      model.bag.ofValue? (model.bag.toValue bag) = some rebuilt ∧ rebuilt.Agrees bag := by
  obtain ⟨backs, hbacks, hequal⟩ := exists_itemsOf?_collectionOf hitems
  refine ⟨.ofList backs, congrArg (Option.map Bag.ofList) hbacks, ?_⟩
  refine Bag.agrees_of_count_eq fun item => ?_
  rw [Bag.count_ofList, ← countP_eq_of_forall₂ hequal item, Bag.count_eq_countIn]
  rfl

end FieldModel

/-- What a reversible field holds comes back; so do all built-in elements, apart from constants that
share a name. -/
theorem FieldType.comesBack {type : FieldType} (hreversible : type.Reversible)
    (content : type.Carrier) : type.model.ComesBack content :=
  (reverses hreversible).comesBack content

namespace Bag

/-- A bag counts for every element how many equal ones were inserted, and its entries are those
elements in strictly ascending order, whatever the order of the insertions was.  Its dynamic value
lists the insertions in ascending order, and a bag that agrees with it comes back from there if
each of the elements comes back from its own. -/
theorem bags_count_exactly :
    (∀ (α : Type) (order : α → α → Ordering) [Std.TransCmp order] (items more : List α),
      CountsExactly (items ++ more) (more.foldl insert (ofList items) : Bag α order)) ∧
    ∀ (model : FieldModel) (items more : List model.Carrier)
      (bag : Bag model.Carrier model.order), bag = more.foldl insert (ofList items) →
      (∃ listed row : List model.Carrier,
        model.bag.toValue bag = .collection (listed.map model.toValue) ∧
        listed.Pairwise (fun earlier later => (model.order earlier later).isLE = true) ∧
        row.Perm (items ++ more) ∧
        List.Forall₂ (fun item other => model.order item other = .eq) listed row) ∧
      ((∀ item ∈ items ++ more, model.ComesBack item) →
        ∃ rebuilt : Bag model.Carrier model.order,
          model.bag.ofValue? (model.bag.toValue bag) = some rebuilt ∧ rebuilt.Agrees bag) := by
  refine ⟨fun α order _ items more => ?_, ?_⟩
  · rw [foldl_insert_ofList]
    exact countsExactly_ofList (items ++ more)
  rintro model items more bag rfl
  rw [foldl_insert_ofList]
  have heach : ListsEach model.order (items ++ more) (ofList (items ++ more)).toList :=
    listsEach_ofList _
  obtain ⟨row, hperm, hall⟩ := exists_perm_of_countP_eq heach.countP_eq
  refine ⟨⟨_, row, rfl, heach.ascending, hperm, hall⟩, fun hback => ?_⟩
  exact FieldModel.exists_bag_of_comesBack fun item hitem => hback item (heach.subset item hitem)

end Bag

/-! ## A sample -/

namespace CountingSample

/-- Two spellings of one path and another path. -/
def bag : Bag Path Path.order :=
  [⟨"b"⟩, ⟨"a/b"⟩].foldl .insert (.ofList [⟨"b"⟩, ⟨"a//b"⟩])

theorem bags_count_exactly_sample :
    Bag.CountsExactly ([⟨"b"⟩, ⟨"a//b"⟩] ++ [⟨"b"⟩, ⟨"a/b"⟩]) bag ∧
      bag.entries = [(⟨"a//b"⟩, 2), (⟨"b"⟩, 2)] ∧
      ∃ rebuilt : Bag Path Path.order,
        FieldModel.path.bag.ofValue? (FieldModel.path.bag.toValue bag) = some rebuilt ∧
          rebuilt.Agrees bag := by
  obtain ⟨hcounts, hlists⟩ := Bag.bags_count_exactly
  refine ⟨hcounts Path Path.order _ _, by decide, ?_⟩
  have hreversible : (FieldType.element .path).Reversible := trivial
  exact (hlists .path [⟨"b"⟩, ⟨"a//b"⟩] [⟨"b"⟩, ⟨"a/b"⟩] bag rfl).2 fun path _ =>
    FieldType.comesBack hreversible path

end CountingSample

end TypedOptions
