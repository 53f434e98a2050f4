import TypedOptions.Proofs.Injection.SecureMode

/-!
# What an injection asks for

An injection looks up the names of one option after the other until an error
ends it; only an option that is not declared soundly is not looked up.  The
keys that it asks for on the way count as used, whether it succeeds or fails,
and no others do.
-/

namespace TypedOptions

variable {τ : Type}

namespace Usage

theorem unused_markAllDeprecated (usage : Usage) (names : List String) :
    (usage.markAllDeprecated names).unused = usage.unused := by
  unfold markAllDeprecated
  induction names generalizing usage with
  | nil => rfl
  | cons name rest ih => exact ih (usage.markDeprecated name)

theorem mem_unused_addUnused {usage : Usage} {names : List String} {key : String} :
    key ∈ (usage.addUnused names).unused ↔ key ∈ names ∨ key ∈ usage.unused := by
  simp [addUnused, or_comm]

end Usage

namespace Configuration

/-- Looking up a name asks for the key below the prefix, and for the name itself if there is a
prefix that does not lead to a setting. -/
theorem mem_probes_iff {config : Configuration} {name key : String} :
    key ∈ config.probes name ↔
      key = config.keyPrefix ++ name ∨
        config.keyPrefix ≠ "" ∧ config.keyPrefix ++ name ∉ config.settings ∧ key = name := by
  unfold probes
  by_cases hprefix : config.keyPrefix = ""
  · rw [keys_of_keyPrefix_eq name hprefix, hprefix, String.empty_append]
    simp [Settings.probes]
  · rw [keys_of_keyPrefix_ne name hprefix]
    by_cases hset : config.keyPrefix ++ name ∈ config.settings
    · simp [Settings.probes, hset]
    · simp [Settings.probes, hset, hprefix]

end Configuration

theorem Finding.mem_lookupNames_iff {declaration : Declaration τ} {option : OptionDeclaration τ}
    {name : String} :
    name ∈ declaration.lookupNames option ↔
      name = declaration.nameOf option ∨
        name ∈ formerNames declaration option (declaration.nameOf option) := by
  unfold Declaration.lookupNames formerNames
  cases declaration.deprecatedScope? with
  | none => simp
  | some scope =>
      simp only [List.mem_cons, List.mem_filter, decide_eq_true_eq]
      by_cases hsame : name = declaration.nameOf option
      · simp [hsame]
      · simp [hsame]

theorem Configuration.mem_probed_iff {config : Configuration} {declaration : Declaration τ}
    {option : OptionDeclaration τ} {key : String} :
    key ∈ (config.finding declaration option).probed ↔
      ∃ name ∈ declaration.lookupNames option, key ∈ config.probes name := by
  unfold finding Finding.ofNames
  simp only [List.mem_append, List.mem_flatMap, Finding.mem_lookupNames_iff, or_and_right,
    exists_or, exists_eq_left]

/-- The names that are looked up for an option, none if it is not declared soundly. -/
def Declaration.askedNames (declaration : Declaration τ) (limit : Regex.SizeLimit)
    (option : OptionDeclaration τ) : List String :=
  match option.check limit (declaration.nameOf option) with
  | .ok _ => declaration.lookupNames option
  | .error _ => []

namespace Injection

/-- The names that are looked up until an error ends the injection. -/
def askedNames (given : Surroundings) (declaration : Declaration τ) (defaults? : Option τ) :
    List (OptionDeclaration τ) → Injection τ → List String
  | [], _ => []
  | option :: rest, injection =>
      let result := injection.injectOption given declaration defaults? option
      declaration.askedNames given.registries.sizeLimit option ++
        match result.error? with
        | some _ => []
        | none => result.reached.askedNames given declaration defaults? rest

variable {given : Surroundings} {declaration : Declaration τ} {defaults? : Option τ}

theorem usage_injectOption {option : OptionDeclaration τ} {injection : Injection τ}
    {expression? : Option Regex}
    (hcheck : option.check given.registries.sizeLimit (declaration.nameOf option) =
      .ok expression?) :
    (injection.injectOption given declaration defaults? option).reached.usage =
      (given.config.finding declaration option).record injection.usage := by
  have hstep := step_injectOption given declaration defaults? option injection
  generalize injection.injectOption given declaration defaults? option = result at hstep ⊢
  cases hstep with
  | unsound hfault =>
      rw [hcheck] at hfault
      cases hfault
  | refused _ hvalue => rfl
  | skipped _ hvalue => rfl
  | kept _ hvalue hequals => rfl
  | written _ hvalue hdiffers => rfl

theorem mem_unused_injectOption {option : OptionDeclaration τ} {injection : Injection τ}
    {key : String} :
    key ∈ (injection.injectOption given declaration defaults? option).reached.usage.unused ↔
      key ∈ injection.usage.unused ∧
        ∀ name ∈ declaration.askedNames given.registries.sizeLimit option,
          key ∉ given.config.probes name := by
  unfold Declaration.askedNames
  cases hcheck : option.check given.registries.sizeLimit (declaration.nameOf option) with
  | error error =>
      rw [injectOption_of_check_eq_error given declaration defaults? option injection hcheck]
      simp
  | ok expression? =>
      rw [usage_injectOption hcheck, Finding.record, Usage.unused_markAllDeprecated,
        Usage.mem_unused_markAllUsed, Configuration.mem_probed_iff, and_comm]
      simp only [not_exists, not_and]

theorem askedNames_cons_of_error {option : OptionDeclaration τ} {injection : Injection τ}
    {error : OptionError} (rest : List (OptionDeclaration τ))
    (herror : (injection.injectOption given declaration defaults? option).error? = some error) :
    injection.askedNames given declaration defaults? (option :: rest) =
      declaration.askedNames given.registries.sizeLimit option := by
  simp [askedNames, herror]

theorem askedNames_cons_of_ok {option : OptionDeclaration τ} {injection : Injection τ}
    (rest : List (OptionDeclaration τ))
    (hok : (injection.injectOption given declaration defaults? option).error? = none) :
    injection.askedNames given declaration defaults? (option :: rest) =
      declaration.askedNames given.registries.sizeLimit option ++
        (injection.injectOption given declaration defaults? option).reached.askedNames given
          declaration defaults? rest := by
  simp [askedNames, hok]

theorem mem_unused_injectOptions {options : List (OptionDeclaration τ)} {injection : Injection τ}
    {key : String} :
    key ∈ (injection.injectOptions given declaration defaults? options).reached.usage.unused ↔
      key ∈ injection.usage.unused ∧
        ∀ name ∈ injection.askedNames given declaration defaults? options,
          key ∉ given.config.probes name := by
  induction options generalizing injection with
  | nil => simp [askedNames]
  | cons option rest ih =>
      cases herror : (injection.injectOption given declaration defaults? option).error? with
      | some error =>
          rw [injectOptions_cons_of_error rest herror, askedNames_cons_of_error rest herror]
          exact mem_unused_injectOption
      | none =>
          rw [injectOptions_cons_of_ok rest herror, askedNames_cons_of_ok rest herror, ih,
            mem_unused_injectOption]
          simp only [List.mem_append, or_imp, forall_and, and_assoc]

theorem askedNames_of_ok {option : OptionDeclaration τ} {injection : Injection τ}
    (hok : (injection.injectOption given declaration defaults? option).error? = none) :
    declaration.askedNames given.registries.sizeLimit option = declaration.lookupNames option := by
  unfold Declaration.askedNames
  cases hcheck : option.check given.registries.sizeLimit (declaration.nameOf option) with
  | error error =>
      rw [injectOption_of_check_eq_error given declaration defaults? option injection hcheck] at hok
      cases hok
  | ok expression? => rfl

/-- An injection that succeeds looks up all names of all options. -/
theorem askedNames_of_injectOptions_ok {options : List (OptionDeclaration τ)}
    {injection : Injection τ}
    (hok : (injection.injectOptions given declaration defaults? options).error? = none) :
    injection.askedNames given declaration defaults? options =
      options.flatMap declaration.lookupNames := by
  induction options generalizing injection with
  | nil => rfl
  | cons option rest ih =>
      cases herror : (injection.injectOption given declaration defaults? option).error? with
      | some error =>
          rw [injectOptions_cons_of_error rest herror, herror] at hok
          cases hok
      | none =>
          rw [injectOptions_cons_of_ok rest herror] at hok
          rw [askedNames_cons_of_ok rest herror, askedNames_of_ok herror, ih hok,
            List.flatMap_cons]

/-- An injection looks up names in the order in which they are declared, up to the error. -/
theorem isPrefix_askedNames (options : List (OptionDeclaration τ)) (injection : Injection τ) :
    injection.askedNames given declaration defaults? options <+:
      options.flatMap declaration.lookupNames := by
  induction options generalizing injection with
  | nil => exact List.nil_prefix
  | cons option rest ih =>
      rw [List.flatMap_cons]
      cases herror : (injection.injectOption given declaration defaults? option).error? with
      | some error =>
          rw [askedNames_cons_of_error rest herror]
          unfold Declaration.askedNames
          cases option.check given.registries.sizeLimit (declaration.nameOf option) with
          | error fault => exact List.nil_prefix
          | ok expression? => exact List.prefix_append _ _
      | none =>
          rw [askedNames_cons_of_ok rest herror, askedNames_of_ok herror,
            List.prefix_append_right_inj]
          exact ih _

/-! ## Deprecated names -/

theorem deprecated_injectOption {option : OptionDeclaration τ} {injection : Injection τ}
    (hscope : declaration.deprecatedScope? = none) (hoption : option.isDeprecated = false) :
    (injection.injectOption given declaration defaults? option).reached.usage.deprecated =
      injection.usage.deprecated := by
  cases hcheck : option.check given.registries.sizeLimit (declaration.nameOf option) with
  | error error =>
      rw [injectOption_of_check_eq_error given declaration defaults? option injection hcheck]
  | ok expression? =>
      have hnone : (given.config.finding declaration option).deprecated = [] := by
        unfold Configuration.finding Finding.ofNames Finding.formerNames
        rw [hscope, hoption]
        rfl
      rw [usage_injectOption hcheck, Finding.record, hnone, Usage.deprecated_markAllDeprecated,
        Usage.deprecated_markAllUsed]
      rfl

/-- Where no option has a former name or is deprecated itself, no name is found to be. -/
theorem deprecated_injectOptions {options : List (OptionDeclaration τ)} {injection : Injection τ}
    (hscope : declaration.deprecatedScope? = none)
    (hoptions : ∀ option ∈ options, option.isDeprecated = false) :
    (injection.injectOptions given declaration defaults? options).reached.usage.deprecated =
      injection.usage.deprecated := by
  induction options generalizing injection with
  | nil => rfl
  | cons option rest ih =>
      have hfirst :
          (injection.injectOption given declaration defaults? option).reached.usage.deprecated =
            injection.usage.deprecated :=
        deprecated_injectOption hscope (hoptions option List.mem_cons_self)
      cases herror : (injection.injectOption given declaration defaults? option).error? with
      | some error =>
          rw [injectOptions_cons_of_error rest herror]
          exact hfirst
      | none =>
          rw [injectOptions_cons_of_ok rest herror,
            ih fun other hother => hoptions other (List.mem_cons_of_mem _ hother)]
          exact hfirst

end Injection

namespace Store

/-- The names that the injection of an object looks up. -/
def askedNames (store : Store) (config : Configuration) (declaration : Declaration τ) (target : τ)
    (defaults? : Option τ) : List String :=
  ((Injection.start target (store.usage config.usage)).log
    [.injecting declaration.options.length declaration.scope]).askedNames
      ⟨config, store.registries⟩ declaration defaults? declaration.options

variable {store : Store} {config : Configuration} {declaration : Declaration τ} {target : τ}
  {defaults? : Option τ}

theorem usage_setUsage {id : UsageId} (usage : Usage) (hid : id < store.usages.nextId) :
    (store.setUsage id usage).usage id = usage :=
  UsageRecords.get_set_of_lt usage hid

theorem nextId_setUsage (id : UsageId) (usage : Usage) :
    (store.setUsage id usage).usages.nextId = store.usages.nextId := by
  simp [setUsage, UsageRecords.set, UsageRecords.nextId]

theorem mem_unused_value? {name key : String} (hid : config.usage < store.usages.nextId) :
    key ∈ ((store.value? config name).1.usage config.usage).unused ↔
      key ∈ (store.usage config.usage).unused ∧ key ∉ config.probes name := by
  rw [value?, usage_setUsage _ hid, Usage.mem_unused_markAllUsed, and_comm]

theorem mem_unused_inject {key : String} (hid : config.usage < store.usages.nextId) :
    key ∈ ((store.inject config declaration target defaults?).1.usage config.usage).unused ↔
      key ∈ (store.usage config.usage).unused ∧
        ∀ name ∈ store.askedNames config declaration target defaults?,
          key ∉ config.probes name := by
  rw [inject, usage_setUsage _ hid]
  exact Injection.mem_unused_injectOptions

theorem isPrefix_askedNames (store : Store) (config : Configuration)
    (declaration : Declaration τ) (target : τ) (defaults? : Option τ) :
    store.askedNames config declaration target defaults? <+:
      declaration.options.flatMap declaration.lookupNames :=
  Injection.isPrefix_askedNames ..

theorem askedNames_of_ok (hok : (store.inject config declaration target defaults?).2.error? = none) :
    store.askedNames config declaration target defaults? =
      declaration.options.flatMap declaration.lookupNames :=
  Injection.askedNames_of_injectOptions_ok hok

/-- An injection only writes to the record of the configuration that it is for. -/
theorem usage_inject_of_ne {id : UsageId} (hid : id ≠ config.usage) :
    (store.inject config declaration target defaults?).1.usage id = store.usage id :=
  UsageRecords.get_set_of_ne _ hid.symm

theorem deprecated_inject {id : UsageId} (hid : id < store.usages.nextId)
    (hscope : declaration.deprecatedScope? = none)
    (hoptions : ∀ option ∈ declaration.options, option.isDeprecated = false) :
    ((store.inject config declaration target defaults?).1.usage id).deprecated =
      (store.usage id).deprecated := by
  by_cases hown : id = config.usage
  · subst hown
    rw [inject, usage_setUsage _ hid]
    exact Injection.deprecated_injectOptions hscope hoptions
  · rw [usage_inject_of_ne hown]

end Store

end TypedOptions
