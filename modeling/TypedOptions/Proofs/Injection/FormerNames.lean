import TypedOptions.Proofs.Injection.Order

/-!
# Former names

The setting under the current name of an option counts before those under its
former names, and among these the first one.  Warnings tell which former name
was used and which settings differ from the one that counts.  All of the names
count as asked for, and a former name that is set, as deprecated, whether its
setting counts or not.
-/

namespace TypedOptions

variable {τ : Type}

/-! ## Warnings -/

namespace LogEvent

def warnings (events : List LogEvent) : List LogEvent :=
  events.filter fun event => event.level = .warn

@[simp] theorem warnings_append (first second : List LogEvent) :
    warnings (first ++ second) = warnings first ++ warnings second :=
  List.filter_append first second

theorem warnings_eq_self_iff {events : List LogEvent} :
    warnings events = events ↔ ∀ event ∈ events, event.level = .warn := by
  simp [warnings]

theorem warnings_eq_nil_iff {events : List LogEvent} :
    warnings events = [] ↔ ∀ event ∈ events, event.level ≠ .warn := by
  simp [warnings]

end LogEvent

namespace Logged

variable {ε α β : Type}

/-- No warning is written. -/
def Quiet (logged : Logged ε α) : Prop :=
  ∀ event ∈ logged.events, event.level ≠ .warn

theorem quiet_pure (value : α) : Quiet (pure value : Logged ε α) := by
  simp [Quiet]

theorem quiet_fail (error : ε) : Quiet (fail error : Logged ε α) := by
  simp [Quiet, fail]

theorem quiet_ofExcept (outcome : Except ε α) : Quiet (ofExcept outcome) := by
  simp [Quiet, ofExcept]

theorem Quiet.bind {first : Logged ε α} {next : α → Logged ε β} (hfirst : first.Quiet)
    (hnext : ∀ value, (next value).Quiet) : (first >>= next).Quiet := by
  change (Logged.bind first next).Quiet
  unfold Logged.bind
  cases first.outcome with
  | error error => exact hfirst
  | ok value =>
      intro event hevent
      rcases List.mem_append.1 hevent with hbefore | hafter
      · exact hfirst event hbefore
      · exact hnext value event hafter

theorem Quiet.map {logged : Logged ε α} (hquiet : logged.Quiet) (change : α → β) :
    (change <$> logged).Quiet :=
  hquiet.bind fun _ => quiet_pure _

end Logged

namespace Surroundings

theorem quiet_convert (given : Surroundings) (option : OptionDeclaration τ) (name : String)
    (expression? : Option Regex) (setting : FoundValue) :
    (given.convert option name expression? setting).Quiet := by
  unfold convert
  split
  · exact Logged.quiet_fail _
  · split
    · refine Logged.Quiet.bind ?_ fun _ => Logged.quiet_ofExcept _
      simp [Logged.Quiet, Logged.log, LogEvent.level]
    · exact Logged.quiet_ofExcept _

/-- Only the look-up of an option warns. -/
theorem quiet_value? (given : Surroundings) (option : OptionDeclaration τ) (name : String)
    (expression? : Option Regex) (chosen? : Option FoundValue) (default? : Option Value) :
    (given.value? option name expression? chosen? default?).Quiet := by
  unfold value?
  cases chosen? with
  | some setting =>
      dsimp only
      split
      · exact Logged.quiet_fail _
      · exact (quiet_convert given option name expression? setting).map _
  | none =>
      dsimp only
      split
      · exact Logged.quiet_fail _
      · cases default? with
        | some default => exact Logged.quiet_ofExcept _
        | none => exact Logged.quiet_pure _

end Surroundings

/-! ## The setting that counts -/

namespace Finding

/-- A warning for each of the names that is set to another value than the one that counts. -/
def overruled (find? : String → Option FoundValue) (name : String) (chosen : FoundValue)
    (formerNames : List String) : List LogEvent :=
  formerNames.filterMap fun former =>
    match find? former with
    | some setting =>
        if setting.value = chosen.value then none
        else some (.ignoring name chosen.value setting.value former)
    | none => none

/-- Which setting counts among those under the current name and the former names, and what is to
be warned of. -/
inductive Reconciled (find? : String → Option FoundValue) (name : String)
    (formerNames : List String) : Option FoundValue → List LogEvent → Prop where
  | current {setting : FoundValue} (hcurrent : find? name = some setting) :
      Reconciled find? name formerNames (some setting) (overruled find? name setting formerNames)
  | former {before after : List String} {used : String} {setting : FoundValue}
      (hcurrent : find? name = none) (hnames : formerNames = before ++ used :: after)
      (hbefore : ∀ former ∈ before, find? former = none) (hused : find? used = some setting) :
      Reconciled find? name formerNames (some setting)
        (.usingDeprecated used name :: overruled find? name setting (before ++ after))
  | nothing (hcurrent : find? name = none) (hformer : ∀ former ∈ formerNames, find? former = none) :
      Reconciled find? name formerNames none []

/-- A warning about each former name that is set to another value, and no other ones. -/
theorem mem_overruled_iff {find? : String → Option FoundValue} {name : String} {chosen : FoundValue}
    {formerNames : List String} {event : LogEvent} :
    event ∈ overruled find? name chosen formerNames ↔
      ∃ former ∈ formerNames, ∃ setting, find? former = some setting ∧
        setting.value ≠ chosen.value ∧
        event = .ignoring name chosen.value setting.value former := by
  unfold overruled
  rw [List.mem_filterMap]
  refine exists_congr fun former => and_congr_right fun _ => ?_
  cases find? former with
  | none => simp
  | some setting => simp [eq_comm]

theorem overruled_append_of_unset {find? : String → Option FoundValue} {before : List String}
    (hbefore : ∀ former ∈ before, find? former = none) (name : String) (chosen : FoundValue)
    (after : List String) :
    overruled find? name chosen (before ++ after) = overruled find? name chosen after := by
  unfold overruled
  rw [List.filterMap_append, List.append_left_eq_self, List.filterMap_eq_nil_iff]
  intro former hformer
  rw [hbefore former hformer]

theorem ignoredEvents_found (find? : String → Option FoundValue) (name : String)
    (chosen : FoundValue) (formerNames : List String) :
    ignoredEvents name chosen
        (formerNames.filterMap fun former => (find? former).map (former, ·)) =
      overruled find? name chosen formerNames := by
  unfold ignoredEvents overruled
  induction formerNames with
  | nil => rfl
  | cons former rest ih =>
      cases hfind : find? former with
      | none => simpa [hfind] using ih
      | some setting =>
          by_cases hsame : setting.value = chosen.value
          · simpa [hfind, hsame] using ih
          · simpa [hfind, hsame] using ih

theorem reconciled_choose (find? : String → Option FoundValue) (name : String)
    (formerNames : List String) :
    let choice := choose name (find? name)
      (formerNames.filterMap fun former => (find? former).map (former, ·))
    Reconciled find? name formerNames choice.1 choice.2 := by
  intro choice
  cases hcurrent : find? name with
  | some setting =>
      have hchoice : choice = (some setting, overruled find? name setting formerNames) := by
        rw [← ignoredEvents_found]
        unfold choice
        rw [hcurrent]
        rfl
      rw [hchoice]
      exact .current hcurrent
  | none =>
      unfold choice
      rw [hcurrent]
      cases hfound : formerNames.filterMap fun former => (find? former).map (former, ·) with
      | nil =>
          refine .nothing hcurrent fun former hformer => ?_
          simpa using List.filterMap_eq_nil_iff.1 hfound former hformer
      | cons first losers =>
          obtain ⟨before, used, after, hnames, hunset, hused, hlosers⟩ :=
            List.filterMap_eq_cons_iff.1 hfound
          obtain ⟨setting, hsetting, rfl⟩ := Option.map_eq_some_iff.1 hused
          have hbefore : ∀ former ∈ before, find? former = none := fun former hformer => by
            simpa using hunset former hformer
          have hevents : ignoredEvents name setting losers =
              overruled find? name setting (before ++ after) := by
            rw [overruled_append_of_unset hbefore, ← hlosers, ignoredEvents_found]
          change Reconciled find? name formerNames (some setting)
            (.usingDeprecated used name :: ignoredEvents name setting losers)
          rw [hevents]
          exact .former hcurrent hnames hbefore hsetting

theorem Reconciled.level {find? : String → Option FoundValue} {name : String}
    {formerNames : List String} {chosen? : Option FoundValue} {events : List LogEvent}
    (hreconciled : Reconciled find? name formerNames chosen? events) :
    ∀ event ∈ events, event.level = .warn := by
  have hoverruled : ∀ chosen names, ∀ event ∈ overruled find? name chosen names,
      event.level = .warn := by
    intro chosen names event hevent
    obtain ⟨former, -, setting, -, -, rfl⟩ := mem_overruled_iff.1 hevent
    rfl
  cases hreconciled with
  | current hcurrent => exact hoverruled _ _
  | former hcurrent hnames hbefore hused => exact List.forall_mem_cons.2 ⟨rfl, hoverruled _ _⟩
  | nothing hcurrent hformer => exact fun event hevent => absurd hevent List.not_mem_nil

theorem reconciled_ofNames (config : Configuration) (name : String) (formerNames : List String)
    (isDeprecated : Bool) :
    let finding := ofNames config name formerNames isDeprecated
    ∃ warnings, Reconciled config.find? name formerNames finding.chosen? warnings ∧
      finding.events = warnings ++
        if isDeprecated && finding.chosen?.isSome then [.deprecatedOption name] else [] :=
  ⟨_, reconciled_choose config.find? name formerNames, rfl⟩

theorem level_of_mem_events {config : Configuration} {name : String} {formerNames : List String}
    {isDeprecated : Bool} {event : LogEvent}
    (hevent : event ∈ (ofNames config name formerNames isDeprecated).events) :
    event.level = .warn := by
  obtain ⟨warnings, hreconciled, hevents⟩ :=
    reconciled_ofNames config name formerNames isDeprecated
  rw [hevents] at hevent
  rcases List.mem_append.1 hevent with hwarning | hdeprecated
  · exact hreconciled.level event hwarning
  · split at hdeprecated
    · rw [List.mem_singleton.1 hdeprecated]
      rfl
    · cases hdeprecated

theorem mem_deprecated_ofNames_iff {config : Configuration} {name key : String}
    {formerNames : List String} {isDeprecated : Bool} :
    let finding := ofNames config name formerNames isDeprecated
    key ∈ finding.deprecated ↔
      key ∈ formerNames ∧ (config.find? key).isSome ∨
        isDeprecated ∧ finding.chosen?.isSome ∧ key = name := by
  intro finding
  change key ∈ (formerNames.filterMap fun former => (config.find? former).map (former, ·)).map
    Prod.fst ++ (if isDeprecated && finding.chosen?.isSome then [name] else []) ↔ _
  rw [List.mem_append]
  refine or_congr ?_ ?_
  · simp [Option.isSome_iff_exists]
  · simp [and_assoc]

end Finding

/-! ## Injections -/

namespace Injection

variable {given : Surroundings} {declaration : Declaration τ} {defaults? : Option τ}

/-- An injection of an option that is declared soundly warns of what its look-up warns of. -/
theorem warnings_injectOption {option : OptionDeclaration τ} {injection : Injection τ}
    {expression? : Option Regex}
    (hcheck : option.check given.registries.sizeLimit (declaration.nameOf option) =
      .ok expression?) :
    LogEvent.warnings
        (injection.injectOption given declaration defaults? option).reached.events =
      LogEvent.warnings injection.events ++ (given.config.finding declaration option).events := by
  have hfinding : LogEvent.warnings (given.config.finding declaration option).events =
      (given.config.finding declaration option).events :=
    LogEvent.warnings_eq_self_iff.2 fun event hevent => Finding.level_of_mem_events hevent
  have hafter : ∀ expression?, LogEvent.warnings
      (injection.afterConversion given declaration defaults? option expression?).events =
        LogEvent.warnings injection.events ++
          (given.config.finding declaration option).events := by
    intro expression?
    have hquiet : LogEvent.warnings
        (injection.conversion given declaration defaults? option expression?).events = [] :=
      LogEvent.warnings_eq_nil_iff.2 (Surroundings.quiet_value? given option _ _ _ _)
    simp only [afterConversion, log, LogEvent.warnings_append, hquiet, hfinding, List.append_nil]
  have hstep := step_injectOption given declaration defaults? option injection
  generalize injection.injectOption given declaration defaults? option = result at hstep ⊢
  cases hstep with
  | unsound hfault =>
      rw [hcheck] at hfault
      cases hfault
  | refused _ hvalue => exact hafter _
  | skipped _ hvalue => exact hafter _
  | kept _ hvalue hequals =>
      simp only [log, LogEvent.warnings_append, hafter]
      exact List.append_nil _
  | written _ hvalue hdiffers =>
      simp only [log, LogEvent.warnings_append, hafter]
      exact List.append_nil _

end Injection

/-- The look-up of an option finds the setting under its current name, or else the first one under
a former name, each with the prefix or without it.  It warns of a former name that is used and of
the settings that are ignored.  Exactly the former names that are set are recorded as deprecated,
and the current name of a deprecated option that is found.  Exactly the keys that are asked for on
the way to the settings are no longer unused.  An injection of the option leaves this record and
no other warnings. -/
theorem former_names_reconciled (given : Surroundings) (declaration : Declaration τ)
    (option : OptionDeclaration τ) :
    let config := given.config
    let name := declaration.nameOf option
    let formerNames := Finding.formerNames declaration option name
    let find? (asked : String) : Option FoundValue :=
      (config.settings.found? (config.keyPrefix ++ asked)).or (config.settings.found? asked)
    let finding := config.finding declaration option
    (∃ warnings, Finding.Reconciled find? name formerNames finding.chosen? warnings ∧
      finding.events = warnings ++
        if option.isDeprecated && finding.chosen?.isSome then [.deprecatedOption name] else []) ∧
      (∀ usage key, key ∈ (finding.record usage).deprecated ↔
        key ∈ usage.deprecated ∨ key ∈ formerNames ∧ (find? key).isSome ∨
          option.isDeprecated ∧ finding.chosen?.isSome ∧ key = name) ∧
      (∀ usage key, key ∈ (finding.record usage).unused ↔
        key ∈ usage.unused ∧ ∀ asked ∈ name :: formerNames,
          ¬(key = config.keyPrefix ++ asked ∨
            config.keyPrefix ≠ "" ∧ config.keyPrefix ++ asked ∉ config.settings ∧ key = asked)) ∧
      ∀ (defaults? : Option τ) (injection : Injection τ) (expression? : Option Regex),
        option.check given.registries.sizeLimit name = .ok expression? →
          let reached := (injection.injectOption given declaration defaults? option).reached
          reached.usage = finding.record injection.usage ∧
            LogEvent.warnings reached.events =
              LogEvent.warnings injection.events ++ finding.events := by
  intro config name formerNames find? finding
  have hfind : find? = config.find? := by
    funext asked
    exact (config.find?_eq_or asked).symm
  rw [hfind]
  refine ⟨Finding.reconciled_ofNames config name formerNames option.isDeprecated, ?_, ?_, ?_⟩
  · intro usage key
    rw [Finding.mem_deprecated_record, or_comm]
    exact or_congr Iff.rfl Finding.mem_deprecated_ofNames_iff
  · intro usage key
    have hprobed : key ∈ finding.probed ↔
        ∃ asked ∈ name :: formerNames, key ∈ config.probes asked := by
      simp [finding, Configuration.finding, Finding.ofNames, name, formerNames]
    rw [Finding.mem_unused_record, and_comm, hprobed]
    simp only [Configuration.mem_probes_iff, not_exists, not_and]
  · intro defaults? injection expression? hcheck
    exact ⟨Injection.usage_injectOption hcheck, Injection.warnings_injectOption hcheck⟩

/-! ## A sample -/

namespace FormerNamesSample

/-- A deprecated option with one former name of its own. -/
def option : OptionDeclaration String :=
  { OptionDeclaration.ofField "a" (.element .string) id (fun value _ => value) with
    deprecatedName? := some "b"
    isDeprecated := true }

def declaration : Declaration String :=
  ⟨"p", some "q", "", [option]⟩

/-- A view below `v`, in which one former name is found with the prefix and the other without. -/
def given : Surroundings where
  config :=
    { Configuration.empty "r" false 0 (.memory .empty) with
      settings := .ofSettings [("q.b", ⟨"x", .manual⟩), ("v.q.a", ⟨"y", .manual⟩),
        ("q.a", ⟨"z", .manual⟩)]
      keyPrefix := "v." }
  registries := (Store.initial (.ofDisk (.ofWorkingDirectory []))).registries

def injection : Injection String :=
  .start "c" (Usage.empty.addUnused ["q.b", "v.q.a", "q.a"])

theorem former_names_reconciled_sample :
    option.check given.registries.sizeLimit "p.a" = .ok none ∧
      (given.config.finding declaration option).chosen? = some ⟨"x", some .manual⟩ ∧
      let reached := (injection.injectOption given declaration none option).reached
      LogEvent.warnings reached.events =
          [.usingDeprecated "q.b" "p.a", .ignoring "p.a" "x" "y" "q.a", .deprecatedOption "p.a"] ∧
        "q.a" ∈ reached.usage.deprecated ∧ "q.a" ∈ reached.usage.unused ∧
        "q.b" ∉ reached.usage.unused := by
  have hcheck : option.check given.registries.sizeLimit "p.a" = .ok none := rfl
  obtain ⟨-, hdeprecated, hunused, hinjection⟩ := former_names_reconciled given declaration option
  obtain ⟨husage, hwarnings⟩ := hinjection none injection none hcheck
  refine ⟨hcheck, by decide +kernel, hwarnings.trans (by decide +kernel), ?_⟩
  rw [husage, hdeprecated, hunused, hunused]
  decide +kernel

end FormerNamesSample

end TypedOptions
