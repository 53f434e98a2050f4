import Mathlib.Data.List.Forall2
import Mathlib.Data.List.Induction
import Mathlib.Data.List.Nodup

/-!
# Lists

Related lists have related members, a list that is one longer than another is
split either at its end or where the shorter one is, and where all keys differ
an entry is found under its key from either end.  If any item of a list has a
property, there is a last one.
-/

namespace TypedOptions

variable {α β : Type}

theorem exists_of_forall₂ {related : α → β → Prop} {firsts : List α}
    {seconds : List β} (hall : List.Forall₂ related firsts seconds) {first : α}
    (hfirst : first ∈ firsts) : ∃ second, related first second := by
  induction hall with
  | nil => cases hfirst
  | cons hrelated _ ih =>
      rcases List.mem_cons.1 hfirst with rfl | hrest
      · exact ⟨_, hrelated⟩
      · exact ih hrest

theorem append_singleton_eq_iff {whole before after : List α} {item last : α} :
    whole ++ [last] = before ++ item :: after ↔
      before = whole ∧ item = last ∧ after = [] ∨
        ∃ earlier, after = earlier ++ [last] ∧ whole = before ++ item :: earlier := by
  constructor
  · intro hsplit
    rcases List.eq_nil_or_concat after with rfl | ⟨earlier, final, rfl⟩
    · obtain ⟨rfl, hlast⟩ := List.append_inj' hsplit rfl
      cases hlast
      exact Or.inl ⟨rfl, rfl, rfl⟩
    · rw [List.concat_eq_append, ← List.cons_append, ← List.append_assoc] at hsplit
      obtain ⟨hwhole, hlast⟩ := List.append_inj' hsplit rfl
      cases hlast
      exact Or.inr ⟨earlier, List.concat_eq_append, hwhole⟩
  · rintro (⟨rfl, rfl, rfl⟩ | ⟨earlier, rfl, rfl⟩)
    · rfl
    · simp

/-- The item has the property, and none of those behind it in the list does. -/
def IsLast (holds : α → Prop) (items : List α) (item : α) : Prop :=
  ∃ before after, items = before ++ item :: after ∧ holds item ∧ ∀ later ∈ after, ¬holds later

theorem IsLast.holds {holds : α → Prop} {items : List α} {item : α} (hlast : IsLast holds items item) :
    holds item := by
  obtain ⟨_, _, -, hitem, -⟩ := hlast
  exact hitem

theorem isLast_append_singleton_iff {holds : α → Prop} {items : List α} {last item : α} :
    IsLast holds (items ++ [last]) item ↔
      holds last ∧ item = last ∨ ¬holds last ∧ IsLast holds items item := by
  constructor
  · rintro ⟨before, after, hsplit, hitem, hafter⟩
    rcases append_singleton_eq_iff.1 hsplit with ⟨-, rfl, -⟩ | ⟨earlier, rfl, rfl⟩
    · exact Or.inl ⟨hitem, rfl⟩
    · obtain ⟨hearlier, hlast⟩ := List.forall_mem_append.1 hafter
      exact Or.inr ⟨hlast last (List.mem_singleton_self last), before, earlier, rfl, hitem, hearlier⟩
  · rintro (⟨hlast, rfl⟩ | ⟨hlast, before, after, rfl, hitem, hafter⟩)
    · exact ⟨items, [], rfl, hlast, nofun⟩
    · refine ⟨before, after ++ [last], List.append_assoc _ _ _, hitem, ?_⟩
      exact List.forall_mem_append.2 ⟨hafter, List.forall_mem_singleton.2 hlast⟩

theorem isLast_append_of_holds {holds : α → Prop} {last : α} (hlast : holds last) {items : List α}
    {item : α} : IsLast holds (items ++ [last]) item ↔ item = last := by
  rw [isLast_append_singleton_iff]
  simp [hlast]

theorem isLast_append_of_not_holds {holds : α → Prop} {last : α} (hlast : ¬holds last)
    {items : List α} {item : α} :
    IsLast holds (items ++ [last]) item ↔ IsLast holds items item := by
  rw [isLast_append_singleton_iff]
  simp [hlast]

theorem not_isLast_nil {holds : α → Prop} {item : α} : ¬IsLast holds [] item := by
  rintro ⟨before, after, hsplit, -⟩
  simp at hsplit

theorem exists_isLast_iff {holds : α → Prop} {items : List α} :
    (∃ item, IsLast holds items item) ↔ ∃ item ∈ items, holds item := by
  constructor
  · rintro ⟨item, before, after, rfl, hitem, -⟩
    exact ⟨item, List.mem_append_right _ List.mem_cons_self, hitem⟩
  · rintro ⟨item, hmem, hitem⟩
    induction items using List.reverseRecOn with
    | nil => cases hmem
    | append_singleton items last ih =>
        by_cases hlast : holds last
        · exact ⟨last, (isLast_append_of_holds hlast).2 rfl⟩
        · have hbefore : item ∈ items := by
            rcases List.mem_append.1 hmem with hbefore | hitself
            · exact hbefore
            · exact absurd (List.mem_singleton.1 hitself ▸ hitem) hlast
          obtain ⟨found, hfound⟩ := ih hbefore
          exact ⟨found, (isLast_append_of_not_holds hlast).2 hfound⟩

theorem mem_of_lookup [BEq α] [LawfulBEq α] {entries : List (α × β)} {key : α} {value : β}
    (hlookup : entries.lookup key = some value) : (key, value) ∈ entries := by
  obtain ⟨before, after, rfl, -⟩ := List.lookup_eq_some_iff.1 hlookup
  exact List.mem_append_right before List.mem_cons_self

theorem lookup_of_mem [BEq α] [LawfulBEq α] {entries : List (α × β)}
    (hdistinct : (entries.map Prod.fst).Nodup) {key : α} {value : β}
    (hmem : (key, value) ∈ entries) : entries.lookup key = some value := by
  obtain ⟨before, after, rfl⟩ := List.append_of_mem hmem
  rw [List.map_append, List.map_cons, List.nodup_append] at hdistinct
  refine List.lookup_eq_some_iff.2 ⟨before, after, rfl, fun entry hentry => ?_⟩
  rw [bne_iff_ne]
  exact (hdistinct.2.2 entry.1 (List.mem_map_of_mem hentry) key List.mem_cons_self).symm

theorem lookup_eq_some_iff_mem [BEq α] [LawfulBEq α] {entries : List (α × β)}
    (hdistinct : (entries.map Prod.fst).Nodup) {key : α} {value : β} :
    entries.lookup key = some value ↔ (key, value) ∈ entries :=
  ⟨mem_of_lookup, lookup_of_mem hdistinct⟩

theorem lookup_reverse [BEq α] [LawfulBEq α] {entries : List (α × β)}
    (hdistinct : (entries.map Prod.fst).Nodup) (key : α) :
    entries.reverse.lookup key = entries.lookup key := by
  have hreverse : (entries.reverse.map Prod.fst).Nodup := by
    rwa [List.map_reverse, List.nodup_reverse]
  ext value
  rw [lookup_eq_some_iff_mem hreverse, lookup_eq_some_iff_mem hdistinct, List.mem_reverse]

end TypedOptions
