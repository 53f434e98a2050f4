import TypedOptions.Proofs.Usage.Family

/-!
# Builds that fail

A build that fails leaves its builder as it was.  It has opened the record of
usage by then, though, and asked for some of its own names.  If the builder
started from another configuration, the record is the one of that
configuration, so what the failed build would have supplied counts as unused
there, and what it has asked for does not any more.
-/

namespace TypedOptions

namespace Builder

variable {builder : Builder} {store : Store} {error : OptionError}

theorem afterBuild_of_error (hfailed : (builder.build store).outcome = .error error) :
    builder.afterBuild (builder.build store) = builder := by
  unfold afterBuild
  rw [hfailed]

theorem mem_unused_base_build {base : BuilderBase} (hsome : builder.base? = some base)
    (hbase : base.usage < store.usages.nextId) {key : String} :
    key ∈ ((builder.build store).store.usage base.usage).unused ↔
      (key ∈ builder.suppliedNames ∨ key ∈ (store.usage base.usage).unused) ∧
        ∀ name ∈ builder.askedNames store, key ∉ (builder.opened store).probes name := by
  have hopened : (builder.openUsage store).2 = base.usage := by
    rw [openUsage, hsome]
  have hvalid : ∀ other ∈ builder.base?, other.usage < store.usages.nextId := by
    simpa [hsome] using hbase
  rw [← hopened, mem_unused_openUsage_build hvalid, hopened]
  simp [hsome]

/-- A failed build leaves the builder alone, and of the records of usage all that is recorded as
deprecated and all but one record as a whole.  This is the record of the configuration that the
builder started from.  There the build has supplied its settings and asked for the first few of
its own names. -/
theorem failed_build_traces (hfailed : (builder.build store).outcome = .error error)
    (hbase : ∀ base ∈ builder.base?, base.usage < store.usages.nextId) :
    builder.afterBuild (builder.build store) = builder ∧
      ∀ config : Configuration, config.usage < store.usages.nextId →
        let before := store.usage config.usage
        let after := (builder.build store).store.usage config.usage
        after.deprecated = before.deprecated ∧
        ((∀ base ∈ builder.base?, base.usage ≠ config.usage) → after = before) ∧
        ∀ base ∈ builder.base?, base.usage = config.usage →
          ∃ asked, asked <+: ownNames ∧ ∀ key,
            key ∈ after.unused ↔
              (key ∈ builder.suppliedNames ∨ key ∈ before.unused) ∧
                ∀ name ∈ asked, key ∉ (builder.opened store).probes name := by
  refine ⟨afterBuild_of_error hfailed, fun config hconfig => ⟨?_, ?_, ?_⟩⟩
  · exact deprecated_build hconfig
  · exact usage_build_of_ne hconfig
  · intro base hsome hown
    refine ⟨builder.askedNames store, isPrefix_askedNames builder store, fun key => ?_⟩
    rw [← hown]
    exact mem_unused_base_build hsome (hbase base hsome)

end Builder

namespace FailedBuildSample

open FamilySample

def held : Store :=
  (rootBuilder.build start).store

/-- A copy of the root with one more setting and an own option that is no truth value. -/
def copyBuilder : Builder :=
  (Builder.empty.copyFrom root).builder.setAll
    [("z", "2"), ("log.usedOptions.export", "maybe")]

theorem exists_error : ∃ error, (copyBuilder.build held).outcome = .error error := by
  have hfailed : (copyBuilder.build held).outcome.toOption.isSome = false := by
    decide +kernel
  cases houtcome : (copyBuilder.build held).outcome with
  | error error => exact ⟨error, rfl⟩
  | ok config =>
      rw [houtcome] at hfailed
      cases hfailed

theorem failed_build_traces_sample :
    (∃ error, (copyBuilder.build held).outcome = .error error) ∧
      root.usage < held.usages.nextId ∧
      copyBuilder.afterBuild (copyBuilder.build held) = copyBuilder ∧
      ((copyBuilder.build held).store.usage root.usage).deprecated =
        (held.usage root.usage).deprecated ∧
      "z" ∈ ((copyBuilder.build held).store.usage root.usage).unused := by
  obtain ⟨error, hfailed⟩ := exists_error
  have hopen : root.usage < held.usages.nextId := by decide +kernel
  have hbase : copyBuilder.base? = some ⟨root.usage, root.settings⟩ := rfl
  have hvalid : ∀ base ∈ copyBuilder.base?, base.usage < held.usages.nextId := by
    simpa [hbase] using hopen
  obtain ⟨hbuilder, hrecords⟩ := Builder.failed_build_traces hfailed hvalid
  obtain ⟨hdeprecated, -, hshared⟩ := hrecords root hopen
  obtain ⟨asked, hasked, hunused⟩ := hshared _ hbase rfl
  refine ⟨⟨error, hfailed⟩, hopen, hbuilder, hdeprecated,
    (hunused "z").2 ⟨Or.inl (by decide +kernel), ?_⟩⟩
  intro name hname hprobed
  -- Without a prefix a name is looked up as it is, and no own name is `z`.
  have hown : name ∈ Builder.ownNames := hasked.subset hname
  have hprobes : ∀ own ∈ Builder.ownNames, "z" ∉ (copyBuilder.opened held).probes own := by
    decide +kernel
  exact hprobes name hown hprobed

/-- The root counts a key as unused that it does not have. -/
theorem root_not_spared :
    (copyBuilder.build held).outcome.toOption.isSome = false ∧
      "z" ∉ (held.usage root.usage).unused ∧
      "z" ∈ ((copyBuilder.build held).store.usage root.usage).unused := by
  decide +kernel

end FailedBuildSample

end TypedOptions
