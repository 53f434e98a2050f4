import Std.Data.ExtTreeSet

/-!
# Usage of settings

While options are looked up, it is recorded which supplied settings nobody
has asked for yet, and which deprecated names were in use.  Configurations
that come from one another share one record.
-/

namespace TypedOptions

abbrev NameSet := Std.ExtTreeSet String

structure Usage where
  unused : NameSet
  deprecated : NameSet

namespace Usage

def empty : Usage :=
  ⟨∅, ∅⟩

def addUnused (usage : Usage) (names : List String) : Usage :=
  { usage with unused := usage.unused.insertMany names }

def markUsed (usage : Usage) (name : String) : Usage :=
  { usage with unused := usage.unused.erase name }

def markDeprecated (usage : Usage) (name : String) : Usage :=
  { usage with deprecated := usage.deprecated.insert name }

def markAllUsed (usage : Usage) (names : List String) : Usage :=
  names.foldl markUsed usage

def markAllDeprecated (usage : Usage) (names : List String) : Usage :=
  names.foldl markDeprecated usage

@[simp] theorem deprecated_markUsed (usage : Usage) (name : String) :
    (usage.markUsed name).deprecated = usage.deprecated :=
  rfl

@[simp] theorem unused_markDeprecated (usage : Usage) (name : String) :
    (usage.markDeprecated name).unused = usage.unused :=
  rfl

theorem mem_unused_markUsed {usage : Usage} {name other : String} :
    other ∈ (usage.markUsed name).unused ↔ other ≠ name ∧ other ∈ usage.unused := by
  simp only [markUsed, Std.ExtTreeSet.mem_erase, Std.compare_eq_iff_eq, ne_eq]
  exact and_congr_left fun _ => not_congr eq_comm

theorem mem_unused_markAllUsed {usage : Usage} {names : List String} {other : String} :
    other ∈ (usage.markAllUsed names).unused ↔ other ∉ names ∧ other ∈ usage.unused := by
  induction names generalizing usage with
  | nil => simp [markAllUsed]
  | cons name rest ih =>
      have hrest := @ih (usage.markUsed name)
      simp only [markAllUsed, List.foldl_cons] at hrest ⊢
      rw [hrest, mem_unused_markUsed]
      simp only [List.mem_cons, not_or]
      exact ⟨fun ⟨hout, hne, hin⟩ => ⟨⟨hne, hout⟩, hin⟩, fun ⟨⟨hne, hout⟩, hin⟩ => ⟨hout, hne, hin⟩⟩

theorem deprecated_markAllUsed (usage : Usage) (names : List String) :
    (usage.markAllUsed names).deprecated = usage.deprecated := by
  unfold markAllUsed
  induction names generalizing usage with
  | nil => rfl
  | cons name rest ih => rw [List.foldl_cons, ih, deprecated_markUsed]

theorem deprecated_markAllDeprecated (usage : Usage) (names : List String) :
    (usage.markAllDeprecated names).deprecated =
      names.foldl (fun deprecated name => deprecated.insert name) usage.deprecated := by
  unfold markAllDeprecated
  induction names generalizing usage with
  | nil => rfl
  | cons name rest ih =>
      rw [List.foldl_cons, ih, List.foldl_cons]
      rfl

end Usage

/-- Records of usage are numbered in the order in which they were opened. -/
abbrev UsageId := Nat

structure UsageRecords where
  records : List Usage

namespace UsageRecords

def empty : UsageRecords :=
  ⟨[]⟩

def get (usages : UsageRecords) (id : UsageId) : Usage :=
  usages.records[id]?.getD .empty

def set (usages : UsageRecords) (id : UsageId) (usage : Usage) : UsageRecords :=
  ⟨usages.records.set id usage⟩

/-- The number that the next record gets. -/
def nextId (usages : UsageRecords) : UsageId :=
  usages.records.length

def add (usages : UsageRecords) (usage : Usage) : UsageRecords :=
  ⟨usages.records ++ [usage]⟩

theorem get_add_nextId (usages : UsageRecords) (usage : Usage) :
    (usages.add usage).get usages.nextId = usage := by
  simp [get, add, nextId]

theorem get_add_of_lt {usages : UsageRecords} {id : UsageId} (usage : Usage)
    (h : id < usages.nextId) : (usages.add usage).get id = usages.get id := by
  have hlt : id < usages.records.length := h
  simp [get, add, List.getElem?_append_left hlt]

theorem get_set_of_lt {usages : UsageRecords} {id : UsageId} (usage : Usage)
    (h : id < usages.nextId) : (usages.set id usage).get id = usage := by
  have hlt : id < usages.records.length := h
  simp [get, set, hlt]

theorem get_set_of_ne {usages : UsageRecords} {id other : UsageId} (usage : Usage)
    (h : id ≠ other) : (usages.set id usage).get other = usages.get other := by
  simp [get, set, List.getElem?_set_ne h]

end UsageRecords

end TypedOptions
