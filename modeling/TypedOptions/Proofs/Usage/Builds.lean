import TypedOptions.Proofs.Builder.Building
import TypedOptions.Proofs.Usage.Asking

/-!
# Records of usage in a build

A build supplies its settings to the record of usage that it opens or takes
over, and asks for the names of its own options in this record.  If it fails
on the way, what it has recorded so far stays.  It touches no other record,
and it records no name as deprecated.
-/

namespace TypedOptions

namespace Builder

variable {builder : Builder} {store : Store} {config placed : Configuration}

/-- The names that every build asks the new configuration for. -/
def ownNames : List String :=
  ["output.path", "output.disable", "rootDirectory", "log.usedOptions.export"]

/-! ## The record that is opened -/

theorem nextId_openUsage (hbase : ∀ base ∈ builder.base?, base.usage < store.usages.nextId) :
    (builder.openUsage store).2 < (builder.openUsage store).1.usages.nextId := by
  unfold openUsage
  cases hsome : builder.base? with
  | none => simp [Store.addUsage, UsageRecords.add, UsageRecords.nextId]
  | some base =>
      rw [Store.nextId_setUsage]
      exact hbase base hsome

theorem mem_unused_openUsage {key : String}
    (hbase : ∀ base ∈ builder.base?, base.usage < store.usages.nextId) :
    key ∈ ((builder.openUsage store).1.usage (builder.openUsage store).2).unused ↔
      key ∈ builder.suppliedNames ∨
        ∃ base ∈ builder.base?, key ∈ (store.usage base.usage).unused := by
  unfold openUsage
  cases hsome : builder.base? with
  | none =>
      have hnew : (store.addUsage (Usage.empty.addUnused builder.suppliedNames)).usage
          store.usages.nextId = Usage.empty.addUnused builder.suppliedNames :=
        store.usages.get_add_nextId _
      rw [hnew, Usage.mem_unused_addUnused]
      simp [Usage.empty]
  | some base =>
      rw [Store.usage_setUsage _ (hbase base hsome), Usage.mem_unused_addUnused]
      simp

theorem nextId_le_openUsage (builder : Builder) (store : Store) :
    store.usages.nextId ≤ (builder.openUsage store).1.usages.nextId := by
  unfold openUsage
  cases builder.base? with
  | none => simp [Store.addUsage, UsageRecords.add, UsageRecords.nextId]
  | some base => exact Nat.le_of_eq (Store.nextId_setUsage ..).symm

theorem ne_openUsage {id : UsageId} (hid : id < store.usages.nextId)
    (hne : ∀ base ∈ builder.base?, base.usage ≠ id) : id ≠ (builder.openUsage store).2 := by
  unfold openUsage
  cases hsome : builder.base? with
  | none => exact Nat.ne_of_lt hid
  | some base => exact (hne base hsome).symm

theorem usage_openUsage_of_ne {id : UsageId} (hid : id < store.usages.nextId)
    (hne : ∀ base ∈ builder.base?, base.usage ≠ id) :
    (builder.openUsage store).1.usage id = store.usage id := by
  unfold openUsage
  cases hsome : builder.base? with
  | none => exact UsageRecords.get_add_of_lt _ hid
  | some base => exact UsageRecords.get_set_of_ne _ (hne base hsome)

theorem deprecated_openUsage {id : UsageId} (hid : id < store.usages.nextId) :
    ((builder.openUsage store).1.usage id).deprecated = (store.usage id).deprecated := by
  unfold openUsage
  cases builder.base? with
  | none => exact congrArg Usage.deprecated (UsageRecords.get_add_of_lt _ hid)
  | some base =>
      by_cases hown : base.usage = id
      · subst hown
        rw [Store.usage_setUsage _ hid]
        rfl
      · exact congrArg Usage.deprecated (UsageRecords.get_set_of_ne _ hown)

/-! ## The two steps -/

/-- The names that a build asks for until it fails or comes to its end. -/
def askedNames (builder : Builder) (store : Store) : List String :=
  (builder.openUsage store).1.askedNames (builder.opened store) FileOptions.declaration .default
      none ++
    match (builder.firstStep store).outcome with
    | .error _ => []
    | .ok placed =>
        (builder.firstStep store).store.askedNames placed ReportOptions.declaration .default none

theorem isPrefix_askedNames (builder : Builder) (store : Store) :
    builder.askedNames store <+: ownNames := by
  have hown : ownNames =
      FileOptions.declaration.options.flatMap FileOptions.declaration.lookupNames ++
        ReportOptions.declaration.options.flatMap ReportOptions.declaration.lookupNames := rfl
  unfold askedNames
  rw [hown]
  cases hplaced : (builder.firstStep store).outcome with
  | error error =>
      rw [List.append_nil]
      exact (Store.isPrefix_askedNames ..).trans (List.prefix_append _ _)
  | ok placed =>
      rw [Store.askedNames_of_ok (placeFiles_outcome_eq_ok hplaced).1,
        List.prefix_append_right_inj]
      exact Store.isPrefix_askedNames ..

theorem askedNames_of_build (hbuild : (builder.build store).outcome = .ok config) :
    builder.askedNames store = ownNames := by
  obtain ⟨placed, hplaced, hreports, -⟩ := exists_of_build_eq_ok hbuild
  unfold askedNames
  simp only [hplaced]
  rw [Store.askedNames_of_ok (placeFiles_outcome_eq_ok hplaced).1,
    Store.askedNames_of_ok (setReports_outcome_eq_ok hreports).1]
  rfl

theorem usage_of_firstStep (hplaced : (builder.firstStep store).outcome = .ok placed) :
    placed.usage = (builder.openUsage store).2 := by
  rw [(placeFiles_outcome_eq_ok hplaced).2]
  rfl

theorem probes_of_firstStep (hplaced : (builder.firstStep store).outcome = .ok placed) :
    placed.probes = (builder.opened store).probes := by
  rw [(placeFiles_outcome_eq_ok hplaced).2]
  rfl

theorem nextId_firstStep (builder : Builder) (store : Store) :
    (builder.firstStep store).store.usages.nextId =
      (builder.openUsage store).1.usages.nextId :=
  Store.nextId_setUsage ..

theorem nextId_build (builder : Builder) (store : Store) :
    (builder.build store).store.usages.nextId = (builder.openUsage store).1.usages.nextId := by
  cases hplaced : (builder.firstStep store).outcome with
  | error error => rw [build_of_error hplaced, nextId_firstStep]
  | ok placed =>
      rw [(build_of_ok hplaced).2, ← nextId_firstStep]
      exact Store.nextId_setUsage ..

/-- A build supplies what its base lacks and asks for own names, even if it fails. -/
theorem mem_unused_openUsage_build {key : String}
    (hbase : ∀ base ∈ builder.base?, base.usage < store.usages.nextId) :
    key ∈ ((builder.build store).store.usage (builder.openUsage store).2).unused ↔
      (key ∈ builder.suppliedNames ∨
        ∃ base ∈ builder.base?, key ∈ (store.usage base.usage).unused) ∧
        ∀ name ∈ builder.askedNames store, key ∉ (builder.opened store).probes name := by
  have hid : (builder.opened store).usage < (builder.openUsage store).1.usages.nextId :=
    nextId_openUsage hbase
  have hfirst : key ∈ ((builder.firstStep store).store.usage
        (builder.openUsage store).2).unused ↔
      key ∈ ((builder.openUsage store).1.usage (builder.openUsage store).2).unused ∧
        ∀ name ∈ (builder.openUsage store).1.askedNames (builder.opened store)
            FileOptions.declaration .default none,
          key ∉ (builder.opened store).probes name :=
    Store.mem_unused_inject hid
  rw [mem_unused_openUsage hbase] at hfirst
  unfold askedNames
  cases hplaced : (builder.firstStep store).outcome with
  | error error => rw [build_of_error hplaced, hfirst, List.append_nil]
  | ok placed =>
      have hplacedId : placed.usage < (builder.firstStep store).store.usages.nextId := by
        rw [usage_of_firstStep hplaced, nextId_firstStep]
        exact hid
      rw [(build_of_ok hplaced).2, List.forall_mem_append, ← and_assoc, ← hfirst,
        ← usage_of_firstStep hplaced, ← probes_of_firstStep hplaced]
      exact Store.mem_unused_inject hplacedId

/-- A build that succeeds supplies what its base lacks and asks for the own names. -/
theorem mem_unused_build {key : String} (hbuild : (builder.build store).outcome = .ok config)
    (hbase : ∀ base ∈ builder.base?, base.usage < store.usages.nextId) :
    key ∈ ((builder.build store).store.usage config.usage).unused ↔
      (key ∈ builder.suppliedNames ∨
        ∃ base ∈ builder.base?, key ∈ (store.usage base.usage).unused) ∧
        ∀ name ∈ ownNames, key ∉ config.probes name := by
  have hprobes : config.probes = (builder.opened store).probes := by
    rw [config_of_build hbuild]
    rfl
  rw [usage_of_build hbuild, hprobes, ← askedNames_of_build hbuild]
  exact mem_unused_openUsage_build hbase

theorem usage_lt_of_build (hbuild : (builder.build store).outcome = .ok config)
    (hbase : ∀ base ∈ builder.base?, base.usage < store.usages.nextId) :
    config.usage < (builder.build store).store.usages.nextId := by
  rw [usage_of_build hbuild, nextId_build]
  exact nextId_openUsage hbase

/-! ## What a build leaves alone -/

theorem usage_build_of_ne {id : UsageId} (hid : id < store.usages.nextId)
    (hne : ∀ base ∈ builder.base?, base.usage ≠ id) :
    (builder.build store).store.usage id = store.usage id := by
  have hother : id ≠ (builder.openUsage store).2 := ne_openUsage hid hne
  have hfirst : (builder.firstStep store).store.usage id =
      (builder.openUsage store).1.usage id :=
    Store.usage_inject_of_ne hother
  rw [usage_openUsage_of_ne hid hne] at hfirst
  cases hplaced : (builder.firstStep store).outcome with
  | error error => rw [build_of_error hplaced, hfirst]
  | ok placed =>
      rw [(build_of_ok hplaced).2, ← hfirst]
      exact Store.usage_inject_of_ne (usage_of_firstStep hplaced ▸ hother)

/-- The own options of configurations have never had other names. -/
theorem deprecated_build {id : UsageId} (hid : id < store.usages.nextId) :
    ((builder.build store).store.usage id).deprecated = (store.usage id).deprecated := by
  have hopened := Nat.lt_of_lt_of_le hid (nextId_le_openUsage builder store)
  have hfirst : ((builder.firstStep store).store.usage id).deprecated =
      ((builder.openUsage store).1.usage id).deprecated :=
    Store.deprecated_inject hopened rfl (by decide)
  rw [deprecated_openUsage hid] at hfirst
  cases hplaced : (builder.firstStep store).outcome with
  | error error => rw [build_of_error hplaced, hfirst]
  | ok placed =>
      rw [(build_of_ok hplaced).2, ← hfirst]
      exact Store.deprecated_inject (nextId_firstStep builder store ▸ hopened) rfl (by decide)

end Builder

end TypedOptions
