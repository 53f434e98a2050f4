import TypedOptions.Proofs.Lists
import TypedOptions.Proofs.Usage.Builds

/-!
# Families of configurations

Configurations that come from one another by copies and views share a record
of usage.  At any time the unused keys of the record are those that some
build of the family has supplied and that nobody has asked for since the last
time they were supplied, whoever of the family it was that was asked.
-/

namespace TypedOptions

/-! ## Histories -/

inductive UsageEvent where
  /-- A configuration with these settings was built, from one with the settings `base?`. -/
  | built (settings : Settings) (base? : Option Settings)
  /-- A configuration was asked for the value of a name. -/
  | asked (config : Configuration) (name : String)

namespace UsageEvent

/-- A build supplies all that it holds but for what its base holds with the same value. -/
def Supplies : UsageEvent → String → Prop
  | built settings base?, key =>
      key ∈ settings ∧ ∀ base ∈ base?, base.value? key ≠ settings.value? key
  | asked _ _, _ => False

def Probes : UsageEvent → String → Prop
  | built _ _, _ => False
  | asked config name, key =>
      key = config.keyPrefix ++ name ∨
        config.keyPrefix ≠ "" ∧ config.keyPrefix ++ name ∉ config.settings ∧ key = name

theorem probes_asked_iff {config : Configuration} {name key : String} :
    (asked config name).Probes key ↔ key ∈ config.probes name :=
  Configuration.mem_probes_iff.symm

end UsageEvent

/-- The key was supplied, and nobody has asked for it since the last time it was. -/
def Unasked (history : List UsageEvent) (key : String) : Prop :=
  ∃ before event after, history = before ++ event :: after ∧ event.Supplies key ∧
    ∀ later ∈ after, ¬later.Supplies key ∧ ¬later.Probes key

namespace Unasked

variable {history : List UsageEvent} {key : String}

theorem not_nil : ¬Unasked [] key := by
  rintro ⟨before, event, after, hsplit, -⟩
  simp at hsplit

theorem concat_iff {event : UsageEvent} :
    Unasked (history ++ [event]) key ↔
      event.Supplies key ∨ Unasked history key ∧ ¬event.Probes key := by
  constructor
  · rintro ⟨before, supply, after, hsplit, hsupply, hafter⟩
    -- The event comes last, so either it is the supply itself or it is later than that.
    rcases append_singleton_eq_iff.1 hsplit with ⟨-, rfl, -⟩ | ⟨earlier, rfl, hhistory⟩
    · exact Or.inl hsupply
    · refine Or.inr ⟨⟨before, supply, earlier, hhistory, hsupply, ?_⟩, ?_⟩
      · exact fun later hlater => hafter later (List.mem_append_left _ hlater)
      · exact (hafter event (by simp)).2
  · intro hcases
    by_cases hsupply : event.Supplies key
    · exact ⟨history, event, [], rfl, hsupply, by simp⟩
    · obtain ⟨⟨before, supply, after, rfl, hfirst, hafter⟩, hprobes⟩ :=
        hcases.resolve_left hsupply
      refine ⟨before, supply, after ++ [event], by simp, hfirst, ?_⟩
      intro later hlater
      rcases List.mem_append.1 hlater with hearlier | hlast
      · exact hafter later hearlier
      · rw [List.mem_singleton.1 hlast]
        exact ⟨hsupply, hprobes⟩

theorem asked_iff {config : Configuration} {names : List String} :
    Unasked (history ++ names.map (.asked config)) key ↔
      Unasked history key ∧ ∀ name ∈ names, key ∉ config.probes name := by
  induction names generalizing history with
  | nil => simp
  | cons name rest ih =>
      have hfirst : Unasked (history ++ [.asked config name]) key ↔
          Unasked history key ∧ key ∉ config.probes name := by
        rw [concat_iff, UsageEvent.probes_asked_iff]
        exact or_iff_right id
      rw [List.map_cons, List.append_cons, ih, hfirst, List.forall_mem_cons, and_assoc]

end Unasked

theorem Builder.mem_suppliedNames_iff {builder : Builder} {key : String} :
    key ∈ builder.suppliedNames ↔
      (UsageEvent.built builder.settings (builder.base?.map BuilderBase.settings)).Supplies
        key := by
  unfold suppliedNames UsageEvent.Supplies
  cases builder.base? with
  | none => simp [Settings.mem_keys]
  | some base => simp [Settings.mem_keys]

/-! ## Families -/

/-- The members of a family, the store, and the history of the record of usage that the members
share.  Whatever else a program does leaves this record alone. -/
inductive Family : Store → List Configuration → List UsageEvent → Prop where
  | root {builder : Builder} {store : Store} {config : Configuration}
      (hbase : builder.base? = none) (hbuild : (builder.build store).outcome = .ok config) :
      Family (builder.build store).store [config]
        (.built config.settings none :: Builder.ownNames.map (.asked config))
  | copied {store : Store} {members : List Configuration} {history : List UsageEvent}
      {member config : Configuration} {builder : Builder}
      (hfamily : Family store members history) (hmember : member ∈ members)
      (hbase : builder.base? = some ⟨member.usage, member.settings⟩)
      (hbuild : (builder.build store).outcome = .ok config) :
      Family (builder.build store).store (config :: members)
        (history ++
          .built config.settings (some member.settings) :: Builder.ownNames.map (.asked config))
  | viewed {store : Store} {members : List Configuration} {history : List UsageEvent}
      {member : Configuration} (hfamily : Family store members history)
      (hmember : member ∈ members) (text : String) :
      Family store (member.withPrefix text :: members) history
  | asked {store : Store} {members : List Configuration} {history : List UsageEvent}
      {member : Configuration} (hfamily : Family store members history)
      (hmember : member ∈ members) (name : String) :
      Family (store.value? member name).1 members (history ++ [.asked member name])
  /-- An injection, whether it succeeds or fails. -/
  | injected {store : Store} {members : List Configuration} {history : List UsageEvent}
      {member : Configuration} {τ : Type} (hfamily : Family store members history)
      (hmember : member ∈ members) (declaration : Declaration τ) (target : τ)
      (defaults? : Option τ) :
      Family (store.inject member declaration target defaults?).1 members
        (history ++
          (store.askedNames member declaration target defaults?).map (.asked member))
  | elsewhere {store later : Store} {members : List Configuration} {history : List UsageEvent}
      (hfamily : Family store members history)
      (hrecord : ∀ member ∈ members, later.usage member.usage = store.usage member.usage)
      (hopened : store.usages.nextId ≤ later.usages.nextId) :
      Family later members history

/-- What the members of a family agree on, the record of usage `id`. -/
structure Family.Shares (id : UsageId) (store : Store) (members : List Configuration)
    (history : List UsageEvent) : Prop where
  usage : ∀ member ∈ members, member.usage = id
  isOpen : id < store.usages.nextId
  unused : ∀ key, key ∈ (store.usage id).unused ↔ Unasked history key

namespace Family

variable {id : UsageId} {store : Store} {members : List Configuration}
  {history : List UsageEvent} {member config : Configuration} {builder : Builder}

theorem shares_root (hbase : builder.base? = none)
    (hbuild : (builder.build store).outcome = .ok config) :
    Shares config.usage (builder.build store).store [config]
      (.built config.settings none :: Builder.ownNames.map (.asked config)) := by
  have hopen : ∀ base ∈ builder.base?, base.usage < store.usages.nextId := by
    simp [hbase]
  refine ⟨by simp, Builder.usage_lt_of_build hbuild hopen, fun key => ?_⟩
  have hbuilt : Unasked [.built config.settings none] key ↔ key ∈ builder.suppliedNames := by
    rw [← List.nil_append [_], Unasked.concat_iff, Builder.mem_suppliedNames_iff, hbase,
      Builder.settings_of_build hbuild]
    simp [Unasked.not_nil]
  rw [Builder.mem_unused_build hbuild hopen, ← List.singleton_append, Unasked.asked_iff, hbuilt]
  simp [hbase]

theorem Shares.copied (hshares : Shares id store members history) (hmember : member ∈ members)
    (hbase : builder.base? = some ⟨member.usage, member.settings⟩)
    (hbuild : (builder.build store).outcome = .ok config) :
    Shares id (builder.build store).store (config :: members)
      (history ++
        .built config.settings (some member.settings) :: Builder.ownNames.map (.asked config)) := by
  have hmemberUsage : member.usage = id := hshares.usage member hmember
  have husage : config.usage = id := by
    rw [Builder.usage_of_build hbuild, Builder.openUsage, hbase]
    exact hmemberUsage
  have hopen : ∀ base ∈ builder.base?, base.usage < store.usages.nextId := by
    simp [hbase, hmemberUsage, hshares.isOpen]
  refine ⟨?_, husage ▸ Builder.usage_lt_of_build hbuild hopen, fun key => ?_⟩
  · intro other hother
    rcases List.mem_cons.1 hother with rfl | hearlier
    · exact husage
    · exact hshares.usage other hearlier
  · have hbuilt : Unasked (history ++ [.built config.settings (some member.settings)]) key ↔
        key ∈ builder.suppliedNames ∨ key ∈ (store.usage id).unused := by
      rw [Unasked.concat_iff, hshares.unused, Builder.mem_suppliedNames_iff, hbase,
        Builder.settings_of_build hbuild]
      simp [UsageEvent.Probes]
    rw [List.append_cons, Unasked.asked_iff, hbuilt, ← husage,
      Builder.mem_unused_build hbuild hopen]
    simp [hbase, hmemberUsage, husage]

theorem Shares.viewed (hshares : Shares id store members history) (hmember : member ∈ members)
    (text : String) : Shares id store (member.withPrefix text :: members) history := by
  refine ⟨?_, hshares.isOpen, hshares.unused⟩
  intro other hother
  rcases List.mem_cons.1 hother with rfl | hearlier
  · exact hshares.usage member hmember
  · exact hshares.usage other hearlier

theorem Shares.asked (hshares : Shares id store members history) (hmember : member ∈ members)
    (name : String) :
    Shares id (store.value? member name).1 members (history ++ [.asked member name]) := by
  have hmemberUsage := hshares.usage member hmember
  subst hmemberUsage
  refine ⟨hshares.usage, ?_, fun key => ?_⟩
  · exact Nat.lt_of_lt_of_eq hshares.isOpen (Store.nextId_setUsage _ _).symm
  · rw [Store.mem_unused_value? hshares.isOpen, hshares.unused, Unasked.concat_iff,
      UsageEvent.probes_asked_iff]
    exact (or_iff_right id).symm

theorem Shares.injected {τ : Type} (hshares : Shares id store members history)
    (hmember : member ∈ members) (declaration : Declaration τ) (target : τ)
    (defaults? : Option τ) :
    Shares id (store.inject member declaration target defaults?).1 members
      (history ++ (store.askedNames member declaration target defaults?).map (.asked member)) := by
  have hmemberUsage := hshares.usage member hmember
  subst hmemberUsage
  refine ⟨hshares.usage, ?_, fun key => ?_⟩
  · exact Nat.lt_of_lt_of_eq hshares.isOpen (Store.nextId_setUsage _ _).symm
  · rw [Store.mem_unused_inject hshares.isOpen, hshares.unused, Unasked.asked_iff]

theorem exists_shares (hfamily : Family store members history) :
    ∃ id, Shares id store members history ∧ members ≠ [] := by
  induction hfamily with
  | root hbase hbuild => exact ⟨_, shares_root hbase hbuild, by simp⟩
  | copied hfamily hmember hbase hbuild ih =>
      obtain ⟨id, hshares, -⟩ := ih
      exact ⟨id, hshares.copied hmember hbase hbuild, by simp⟩
  | viewed hfamily hmember text ih =>
      obtain ⟨id, hshares, -⟩ := ih
      exact ⟨id, hshares.viewed hmember text, by simp⟩
  | asked hfamily hmember name ih =>
      obtain ⟨id, hshares, hmembers⟩ := ih
      exact ⟨id, hshares.asked hmember name, hmembers⟩
  | injected hfamily hmember declaration target defaults? ih =>
      obtain ⟨id, hshares, hmembers⟩ := ih
      exact ⟨id, hshares.injected hmember declaration target defaults?, hmembers⟩
  | elsewhere hfamily hrecord hopened ih =>
      obtain ⟨id, hshares, hmembers⟩ := ih
      obtain ⟨member, hmember⟩ := List.exists_mem_of_ne_nil _ hmembers
      have hsame := hrecord member hmember
      rw [hshares.usage member hmember] at hsame
      refine ⟨id, ⟨hshares.usage, Nat.lt_of_lt_of_le hshares.isOpen hopened, ?_⟩, hmembers⟩
      rw [hsame]
      exact hshares.unused

/-- All members of a family have one record of usage, and its unused keys are at any time those
that a build of the family has supplied and that no look-up has asked for since then. -/
theorem unused_iff_unasked (hfamily : Family store members history) :
    (∀ first ∈ members, ∀ second ∈ members, first.usage = second.usage) ∧
      ∀ member ∈ members, ∀ key,
        key ∈ (store.usage member.usage).unused ↔ Unasked history key := by
  obtain ⟨id, hshares, -⟩ := hfamily.exists_shares
  refine ⟨?_, ?_⟩
  · intro first hfirst second hsecond
    rw [hshares.usage first hfirst, hshares.usage second hsecond]
  · intro member hmember
    rw [hshares.usage member hmember]
    exact hshares.unused

end Family

/-! ## A sample -/

namespace FamilySample

/-- What comes of a build that succeeds. -/
def built (builder : Builder) (store : Store) : Configuration :=
  (builder.build store).outcome.toOption.getD (.empty "r" false 0 (.memory .empty))

theorem outcome_eq_built {builder : Builder} {store : Store}
    (hok : (builder.build store).outcome.toOption.isSome = true) :
    (builder.build store).outcome = .ok (built builder store) := by
  unfold built
  cases houtcome : (builder.build store).outcome with
  | error error =>
      rw [houtcome] at hok
      cases hok
  | ok config => rfl

def start : Store :=
  .initial (.ofDisk (.ofWorkingDirectory []))

def rootBuilder : Builder :=
  Builder.empty.setAll [("a", "1"), ("b", "2"), ("output.path", "/o")]

def root : Configuration :=
  built rootBuilder start

def view : Configuration :=
  root.withPrefix "v"

/-- The view has been asked for `a`, which it finds without its prefix. -/
def asked : Store :=
  ((rootBuilder.build start).store.value? view "a").1

/-- A copy of the view that has `a` with another value. -/
def copyBuilder : Builder :=
  (Builder.empty.copyFrom view).builder.set "a" "3"

def history : List UsageEvent :=
  [.built root.settings none] ++ Builder.ownNames.map (.asked root) ++ [.asked view "a"] ++
    [.built (built copyBuilder asked).settings (some view.settings)] ++
    Builder.ownNames.map (.asked (built copyBuilder asked))

theorem family_history :
    Family (copyBuilder.build asked).store [built copyBuilder asked, view, root] history := by
  have hroot : (rootBuilder.build start).outcome = .ok root :=
    outcome_eq_built (by decide +kernel)
  have hcopy : (copyBuilder.build asked).outcome = .ok (built copyBuilder asked) :=
    outcome_eq_built (by decide +kernel)
  have hbegun := Family.root rfl hroot
  have hviewed : Family (rootBuilder.build start).store [view, root] _ :=
    hbegun.viewed List.mem_cons_self "v"
  have hasked : Family asked [view, root] _ := hviewed.asked List.mem_cons_self "a"
  have hbase : copyBuilder.base? = some ⟨view.usage, view.settings⟩ := rfl
  have hcopied := hasked.copied List.mem_cons_self hbase hcopy
  unfold history
  rw [List.append_assoc _ [_] (List.map _ _)]
  exact hcopied

theorem unused_iff_unasked_sample :
    Family (copyBuilder.build asked).store [built copyBuilder asked, view, root] history ∧
      Unasked history "a" ∧ Unasked history "b" ∧ ¬Unasked history "output.path" := by
  obtain ⟨-, hunused⟩ := Family.unused_iff_unasked family_history
  have hview := hunused view (by simp)
  refine ⟨family_history, (hview "a").1 ?_, (hview "b").1 ?_, fun hpath => ?_⟩
  · decide +kernel
  · decide +kernel
  · have hnot : "output.path" ∉ ((copyBuilder.build asked).store.usage view.usage).unused := by
      decide +kernel
    exact hnot ((hview "output.path").2 hpath)

end FamilySample

end TypedOptions
