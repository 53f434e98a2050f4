/-!
# Collections without repetition and with counted repetition

A `DistinctList` keeps the first of elements that are the same.  A
`SortedList` keeps its elements in ascending order and the last of equal
ones.  A `Bag` counts how often each element occurs, in ascending order of
the elements.
-/

namespace TypedOptions

/-- A list in which no element is the same as an earlier one. -/
structure DistinctList (α : Type) (same : α → α → Bool) where
  toList : List α
  distinct : toList.Pairwise fun earlier later => same earlier later = false

namespace DistinctList

variable {α : Type} {same : α → α → Bool}

def empty : DistinctList α same :=
  ⟨[], .nil⟩

/-- Adds an element behind the others unless it is there already. -/
def push (items : DistinctList α same) (item : α) : DistinctList α same :=
  if h : items.toList.any (same · item) then items
  else
    ⟨items.toList ++ [item], by
      simp only [List.any_eq_true, not_exists, not_and, Bool.not_eq_true] at h
      refine List.pairwise_append.2 ⟨items.distinct, List.pairwise_singleton .., ?_⟩
      intro earlier hearlier later hlater
      obtain rfl := List.mem_singleton.1 hlater
      exact h earlier hearlier⟩

def ofList (items : List α) : DistinctList α same :=
  items.foldl push empty

end DistinctList

/-- A list in strictly ascending order. -/
structure SortedList (α : Type) (order : α → α → Ordering) where
  toList : List α
  ascending : toList.Pairwise fun earlier later => order earlier later = .lt

namespace SortedList

variable {α : Type} {order : α → α → Ordering}

/-- Puts an element at its place, instead of an equal one. -/
def insertInto (order : α → α → Ordering) (item : α) : List α → List α
  | [] => [item]
  | first :: rest =>
      match order item first with
      | .lt => item :: first :: rest
      | .eq => item :: rest
      | .gt => first :: insertInto order item rest

theorem mem_insertInto {item other : α} {items : List α}
    (h : other ∈ insertInto order item items) : other = item ∨ other ∈ items := by
  induction items with
  | nil => simpa [insertInto] using h
  | cons first rest ih =>
      simp only [insertInto] at h
      split at h
      · simpa using h
      · have := List.mem_cons.1 h
        exact this.imp_right (List.mem_cons_of_mem _)
      · cases List.mem_cons.1 h with
        | inl heq => exact Or.inr (heq ▸ List.mem_cons_self ..)
        | inr hrest => exact (ih hrest).imp_right (List.mem_cons_of_mem _)

theorem ascending_insertInto [Std.TransCmp order] (item : α) {items : List α}
    (h : items.Pairwise fun earlier later => order earlier later = .lt) :
    (insertInto order item items).Pairwise fun earlier later => order earlier later = .lt := by
  induction items with
  | nil => simp [insertInto]
  | cons first rest ih =>
      obtain ⟨hfirst, hrest⟩ := List.pairwise_cons.1 h
      simp only [insertInto]
      split
      · rename_i hlt
        refine List.pairwise_cons.2 ⟨?_, h⟩
        intro later hlater
        cases List.mem_cons.1 hlater with
        | inl heq => exact heq ▸ hlt
        | inr hmem => exact Std.TransCmp.lt_trans hlt (hfirst later hmem)
      · rename_i heq
        refine List.pairwise_cons.2 ⟨?_, hrest⟩
        intro later hlater
        exact Std.TransCmp.lt_of_eq_of_lt heq (hfirst later hlater)
      · rename_i hgt
        refine List.pairwise_cons.2 ⟨?_, ih hrest⟩
        intro later hlater
        cases mem_insertInto hlater with
        | inl heq => exact heq ▸ Std.OrientedCmp.gt_iff_lt.1 hgt
        | inr hmem => exact hfirst later hmem

def empty : SortedList α order :=
  ⟨[], .nil⟩

def insert [Std.TransCmp order] (items : SortedList α order) (item : α) : SortedList α order :=
  ⟨insertInto order item items.toList, ascending_insertInto item items.ascending⟩

def ofList [Std.TransCmp order] (items : List α) : SortedList α order :=
  items.foldl insert empty

end SortedList

/-- Elements with the numbers of their occurrences. -/
structure Bag (α : Type) (order : α → α → Ordering) where
  entries : List (α × Nat)
  ascending : entries.Pairwise fun earlier later => order earlier.1 later.1 = .lt
  positive : ∀ entry ∈ entries, 0 < entry.2

namespace Bag

variable {α : Type} {order : α → α → Ordering}

/-- Counts one more occurrence; of equal elements the first stays. -/
def insertInto (order : α → α → Ordering) (item : α) : List (α × Nat) → List (α × Nat)
  | [] => [(item, 1)]
  | (first, count) :: rest =>
      match order item first with
      | .lt => (item, 1) :: (first, count) :: rest
      | .eq => (first, count + 1) :: rest
      | .gt => (first, count) :: insertInto order item rest

theorem fst_of_mem_insertInto {item : α} {other : α × Nat} {entries : List (α × Nat)}
    (h : other ∈ insertInto order item entries) :
    other.1 = item ∨ ∃ entry ∈ entries, other.1 = entry.1 := by
  induction entries with
  | nil =>
      simp only [insertInto, List.mem_singleton] at h
      exact Or.inl (h ▸ rfl)
  | cons entry rest ih =>
      obtain ⟨first, count⟩ := entry
      simp only [insertInto] at h
      split at h
      · cases List.mem_cons.1 h with
        | inl heq => exact Or.inl (heq ▸ rfl)
        | inr hmem => exact Or.inr ⟨other, hmem, rfl⟩
      · cases List.mem_cons.1 h with
        | inl heq => exact Or.inr ⟨(first, count), List.mem_cons_self .., heq ▸ rfl⟩
        | inr hmem => exact Or.inr ⟨other, List.mem_cons_of_mem _ hmem, rfl⟩
      · cases List.mem_cons.1 h with
        | inl heq => exact Or.inr ⟨(first, count), List.mem_cons_self .., heq ▸ rfl⟩
        | inr hmem =>
            cases ih hmem with
            | inl heq => exact Or.inl heq
            | inr hex =>
                obtain ⟨entry, hentry, heq⟩ := hex
                exact Or.inr ⟨entry, List.mem_cons_of_mem _ hentry, heq⟩

theorem positive_insertInto (item : α) {entries : List (α × Nat)}
    (h : ∀ entry ∈ entries, 0 < entry.2) : ∀ entry ∈ insertInto order item entries, 0 < entry.2 := by
  induction entries with
  | nil => simp [insertInto]
  | cons entry rest ih =>
      obtain ⟨first, count⟩ := entry
      have hrest : ∀ entry ∈ rest, 0 < entry.2 := fun entry hentry =>
        h entry (List.mem_cons_of_mem _ hentry)
      have hfirst : 0 < count := h (first, count) (List.mem_cons_self ..)
      intro other hother
      simp only [insertInto] at hother
      split at hother
      · cases List.mem_cons.1 hother with
        | inl heq => simp [heq]
        | inr hmem => exact h other hmem
      · cases List.mem_cons.1 hother with
        | inl heq => simp [heq]
        | inr hmem => exact hrest other hmem
      · cases List.mem_cons.1 hother with
        | inl heq => simpa [heq] using hfirst
        | inr hmem => exact ih hrest other hmem

theorem ascending_insertInto [Std.TransCmp order] (item : α) {entries : List (α × Nat)}
    (h : entries.Pairwise fun earlier later => order earlier.1 later.1 = .lt) :
    (insertInto order item entries).Pairwise
      fun earlier later => order earlier.1 later.1 = .lt := by
  induction entries with
  | nil => simp [insertInto]
  | cons entry rest ih =>
      obtain ⟨first, count⟩ := entry
      obtain ⟨hfirst, hrest⟩ := List.pairwise_cons.1 h
      simp only [insertInto]
      split
      · rename_i hlt
        refine List.pairwise_cons.2 ⟨?_, h⟩
        intro later hlater
        cases List.mem_cons.1 hlater with
        | inl heq => exact heq ▸ hlt
        | inr hmem => exact Std.TransCmp.lt_trans hlt (hfirst later hmem)
      · exact List.pairwise_cons.2 ⟨hfirst, hrest⟩
      · rename_i hgt
        refine List.pairwise_cons.2 ⟨?_, ih hrest⟩
        intro later hlater
        cases fst_of_mem_insertInto hlater with
        | inl heq => exact heq ▸ Std.OrientedCmp.gt_iff_lt.1 hgt
        | inr hex =>
            obtain ⟨entry, hentry, heq⟩ := hex
            exact heq ▸ hfirst entry hentry

def empty : Bag α order :=
  ⟨[], .nil, by simp⟩

def insert [Std.TransCmp order] (bag : Bag α order) (item : α) : Bag α order :=
  ⟨insertInto order item bag.entries, ascending_insertInto item bag.ascending,
    positive_insertInto item bag.positive⟩

def ofList [Std.TransCmp order] (items : List α) : Bag α order :=
  items.foldl insert empty

def count (bag : Bag α order) (item : α) : Nat :=
  match bag.entries.find? fun entry => order item entry.1 == .eq with
  | some entry => entry.2
  | none => 0

def size (bag : Bag α order) : Nat :=
  bag.entries.foldr (fun entry total => entry.2 + total) 0

def isEmpty (bag : Bag α order) : Bool :=
  bag.entries.isEmpty

/-- The elements in ascending order, each as often as it occurs. -/
def toList (bag : Bag α order) : List α :=
  bag.entries.flatMap fun (item, count) => List.replicate count item

end Bag

end TypedOptions
