import TypedOptions.Proofs.Injection.Steps
import TypedOptions.Proofs.Lists
import TypedOptions.Store

/-!
# Views with a prefix

A view with a prefix injects what a configuration without a prefix would
inject whose settings are laid over each other: every key has the value that
the view has below its prefix, and otherwise the one that it has itself.
Only which keys count as used is different.
-/

namespace TypedOptions

variable {τ : Type}

/-! ## Laying settings over each other -/

namespace Settings

/-- What follows `lead` in a key that begins with it. -/
def below? (lead key : String) : Option String :=
  if lead.toList <+: key.toList then some (String.ofList (key.toList.drop lead.toList.length))
  else none

/-- What is found below `lead`, by the rests of the keys. -/
def entriesBelow (lead : String) (settings : Settings) : List (String × FoundValue) :=
  settings.entries.filterMap fun (key, value) =>
    (below? lead key).map (·, ⟨value, settings.source? key⟩)

/-- Puts what was found elsewhere under a name, with its source or without one. -/
def put (settings : Settings) (name : String) (found : FoundValue) : Settings :=
  ⟨settings.values.insert name found.value, settings.sources.alter name fun _ => found.source?⟩

/-- The settings together with those below `lead`, which win. -/
def overlay (lead : String) (settings : Settings) : Settings :=
  (settings.entriesBelow lead).foldl (fun settings entry => settings.put entry.1 entry.2) settings

theorem below?_eq_some_iff {lead key rest : String} :
    below? lead key = some rest ↔ lead ++ rest = key := by
  unfold below?
  rw [← String.toList_inj, String.toList_append]
  constructor
  · intro hrest
    split at hrest
    · rename_i hlead
      obtain ⟨tail, htail⟩ := hlead
      rw [← htail] at hrest ⊢
      rw [List.drop_left, Option.some_inj] at hrest
      rw [← hrest, String.toList_ofList]
    · cases hrest
  · intro hkey
    rw [← hkey, if_pos (List.prefix_append ..), List.drop_left, String.ofList_toList]

theorem mem_entriesBelow {lead key : String} {settings : Settings} {found : FoundValue} :
    (key, found) ∈ settings.entriesBelow lead ↔ settings.found? (lead ++ key) = some found := by
  constructor
  · intro hmem
    obtain ⟨⟨other, value⟩, hentry, hkey⟩ := List.mem_filterMap.1 hmem
    obtain ⟨rest, hrest, hpair⟩ := Option.map_eq_some_iff.1 hkey
    cases hpair
    rw [below?_eq_some_iff.1 hrest, found?_eq, mem_entries_iff.1 hentry]
    rfl
  · intro hfound
    rw [found?_eq] at hfound
    obtain ⟨value, hvalue, rfl⟩ := Option.map_eq_some_iff.1 hfound
    apply List.mem_filterMap.2
    refine ⟨(lead ++ key, value), mem_entries_iff.2 hvalue, ?_⟩
    simp only [below?_eq_some_iff.2 rfl, Option.map_some]

theorem nodup_entriesBelow (lead : String) (settings : Settings) :
    ((settings.entriesBelow lead).map Prod.fst).Nodup := by
  have hdistinct := settings.nodup_entries
  rw [List.Nodup, List.pairwise_map] at hdistinct ⊢
  rw [entriesBelow, List.pairwise_filterMap]
  refine hdistinct.imp ?_
  rintro ⟨first, value⟩ ⟨second, other⟩ hne _ hfirst _ hsecond hsame
  obtain ⟨rest, hrest, rfl⟩ := Option.map_eq_some_iff.1 hfirst
  obtain ⟨more, hmore, rfl⟩ := Option.map_eq_some_iff.1 hsecond
  have hrests : rest = more := hsame
  apply hne
  rw [← below?_eq_some_iff.1 hrest, ← below?_eq_some_iff.1 hmore, hrests]

theorem found?_put (settings : Settings) (name : String) (found : FoundValue) (other : String) :
    (settings.put name found).found? other =
      if name = other then some found else settings.found? other := by
  simp only [found?, value?, source?, put, Std.ExtTreeMap.getElem?_insert,
    Std.ExtTreeMap.getElem?_alter, Std.compare_eq_iff_eq]
  split <;> rfl

theorem found?_overlay (lead : String) (settings : Settings) (key : String) :
    (settings.overlay lead).found? key =
      (settings.found? (lead ++ key)).or (settings.found? key) := by
  have hput := get_foldl found? (fun settings entry => settings.put entry.1 entry.2) id
    found?_put (settings.entriesBelow lead) settings key
  rw [overlay, hput, Option.map_id_fun, id_eq]
  congr 1
  have hdistinct := nodup_entriesBelow lead settings
  ext found
  rw [lookup_reverse hdistinct, lookup_eq_some_iff_mem hdistinct, mem_entriesBelow]

end Settings

/-! ## Configurations that find the same -/

namespace Configuration

/-- Both configurations find the same under every name, and convert it in the same way. -/
structure FindsAs (first second : Configuration) : Prop where
  find?_eq : first.find? = second.find?
  rest : second =
    { first with settings := second.settings, keyPrefix := second.keyPrefix }

theorem has_eq_isSome_find? (config : Configuration) (name : String) :
    config.has name = (config.find? name).isSome := by
  rw [has, find?, Settings.findFirst?, List.isSome_findSome?]
  apply List.any_congr rfl
  intro key
  rw [Bool.eq_iff_iff, decide_eq_true_iff, Settings.isSome_found?]

theorem FindsAs.finding_eq {first second : Configuration} (hsame : first.FindsAs second)
    (declaration : Declaration τ) (option : OptionDeclaration τ) :
    first.finding declaration option =
      { second.finding declaration option with
        probed := (first.finding declaration option).probed } := by
  simp only [finding, Finding.ofNames, hsame.find?_eq]

/-- The configuration without a prefix whose settings are those of the view. -/
def overlay (lead : String) (config : Configuration) : Configuration :=
  { config with settings := config.settings.overlay lead, keyPrefix := "" }

theorem find?_overlay (lead : String) (config : Configuration) (name : String) :
    (config.overlay lead).find? name = (config.settings.overlay lead).found? name := by
  rw [find?_eq_or, show (config.overlay lead).keyPrefix = "" from rfl, String.empty_append,
    Option.or_self]
  rfl

theorem find?_withPrefix (text : String) (config : Configuration) (name : String) :
    (config.withPrefix text).find? name =
      (config.settings.found? (withFinalPoint text ++ name)).or (config.settings.found? name) :=
  find?_eq_or (config.withPrefix text) name

theorem withPrefix_findsAs_overlay (text : String) (config : Configuration) :
    (config.withPrefix text).FindsAs (config.overlay (withFinalPoint text)) where
  find?_eq := by
    funext name
    rw [find?_withPrefix, find?_overlay, Settings.found?_overlay]
  rest := rfl

end Configuration

/-! ## Injections that differ in the used keys only -/

/-- The injections have come to the same, apart from which keys count as used. -/
structure Injection.Alike (first second : Injection τ) : Prop where
  target : first.target = second.target
  events : first.events = second.events
  deprecated : first.usage.deprecated = second.usage.deprecated

structure InjectionResult.Alike (first second : InjectionResult τ) : Prop where
  reached : first.reached.Alike second.reached
  error? : first.error? = second.error?

namespace Injection.Alike

variable {first second : Configuration} {registries : Registries} {declaration : Declaration τ}
  {defaults? : Option τ} {injection other : Injection τ}

theorem log (halike : injection.Alike other) (events : List LogEvent) :
    (injection.log events).Alike (other.log events) where
  target := halike.target
  events := congrArg (· ++ events) halike.events
  deprecated := halike.deprecated

theorem start (target : τ) (usage : Usage) :
    (Injection.start target usage).Alike (Injection.start target usage) :=
  ⟨rfl, rfl, rfl⟩

theorem conversion (halike : injection.Alike other) (hsame : first.FindsAs second)
    (option : OptionDeclaration τ) (expression? : Option Regex) :
    injection.conversion ⟨first, registries⟩ declaration defaults? option expression? =
      other.conversion ⟨second, registries⟩ declaration defaults? option expression? := by
  have hchosen : (first.finding declaration option).chosen? =
      (second.finding declaration option).chosen? := by
    rw [hsame.finding_eq]
  unfold Injection.conversion
  rw [halike.target, hchosen, hsame.rest]
  rfl

/-- The look-ups differ in the keys that they ask for, which only count as used. -/
theorem afterConversion (halike : injection.Alike other) (hsame : first.FindsAs second)
    (option : OptionDeclaration τ) (expression? : Option Regex) :
    (injection.afterConversion ⟨first, registries⟩ declaration defaults? option
      expression?).Alike
      (other.afterConversion ⟨second, registries⟩ declaration defaults? option expression?) := by
  have hdeprecated : (first.finding declaration option).deprecated =
      (second.finding declaration option).deprecated := by
    rw [hsame.finding_eq]
  have hevents : (first.finding declaration option).events =
      (second.finding declaration option).events := by
    rw [hsame.finding_eq]
  unfold Injection.afterConversion
  rw [halike.conversion hsame]
  constructor
  · exact halike.target
  · change injection.events ++ _ = other.events ++ _
    rw [halike.events, hevents]
  · change ((first.finding declaration option).record injection.usage).deprecated =
      ((second.finding declaration option).record other.usage).deprecated
    unfold Finding.record
    rw [Usage.deprecated_markAllDeprecated, Usage.deprecated_markAllDeprecated,
      Usage.deprecated_markAllUsed, Usage.deprecated_markAllUsed, hdeprecated,
      halike.deprecated]

theorem store (halike : injection.Alike other) (option : OptionDeclaration τ) (name : String)
    (value : Value) (current? : Option Value) :
    (injection.store option name value current?).Alike
      (other.store option name value current?) := by
  unfold Injection.store
  split
  · exact ⟨halike.log _, rfl⟩
  · have hlog := halike.log [.setting name value.text]
    refine ⟨⟨?_, hlog.events, hlog.deprecated⟩, ?_⟩
    · exact congrArg (fun target => (option.write name value target).1) halike.target
    · exact congrArg (fun target => (option.write name value target).2) halike.target

theorem injectOption (halike : injection.Alike other) (hsame : first.FindsAs second)
    (option : OptionDeclaration τ) :
    (injection.injectOption ⟨first, registries⟩ declaration defaults? option).Alike
      (other.injectOption ⟨second, registries⟩ declaration defaults? option) := by
  cases hcheck : option.check registries.sizeLimit (declaration.nameOf option) with
  | error error =>
      rw [injectOption_of_check_eq_error _ _ _ _ _ hcheck,
        injectOption_of_check_eq_error _ _ _ _ _ hcheck]
      exact ⟨halike, rfl⟩
  | ok expression? =>
      rw [injectOption_of_check_eq_ok _ _ _ _ _ hcheck,
        injectOption_of_check_eq_ok _ _ _ _ _ hcheck, halike.conversion hsame, halike.target]
      split
      · exact ⟨halike.afterConversion hsame option expression?, rfl⟩
      · exact ⟨halike.afterConversion hsame option expression?, rfl⟩
      · exact (halike.afterConversion hsame option expression?).store ..

theorem injectOptions (halike : injection.Alike other) (hsame : first.FindsAs second)
    (options : List (OptionDeclaration τ)) :
    (injection.injectOptions ⟨first, registries⟩ declaration defaults? options).Alike
      (other.injectOptions ⟨second, registries⟩ declaration defaults? options) := by
  induction options generalizing injection other with
  | nil => exact ⟨halike, rfl⟩
  | cons option rest ih =>
      have hstep : (injection.injectOption ⟨first, registries⟩ declaration defaults? option).Alike
          (other.injectOption ⟨second, registries⟩ declaration defaults? option) :=
        halike.injectOption hsame option
      cases herror : (injection.injectOption ⟨first, registries⟩ declaration defaults?
          option).error? with
      | some error =>
          rw [injectOptions_cons_of_error rest herror,
            injectOptions_cons_of_error rest (hstep.error? ▸ herror)]
          exact hstep
      | none =>
          rw [injectOptions_cons_of_ok rest herror,
            injectOptions_cons_of_ok rest (hstep.error? ▸ herror)]
          exact ih hstep.reached

end Injection.Alike

theorem UsageRecords.deprecated_get_set (usages : UsageRecords) {first second : Usage}
    (hdeprecated : first.deprecated = second.deprecated) (id other : UsageId) :
    ((usages.set id first).get other).deprecated =
      ((usages.set id second).get other).deprecated := by
  simp only [get, set, List.getElem?_set]
  split
  · split
    · exact hdeprecated
    · rfl
  · rfl

/-- A view with a prefix injects what its overlay injects: the same target comes out, with the
same error, the same messages and the same names recorded as deprecated.  The overlay has no
prefix and for every key what the view has below its prefix, or else for the key itself. -/
theorem view_injects_overlay (store : Store) (config : Configuration) (text : String)
    (declaration : Declaration τ) (target : τ) (defaults? : Option τ) :
    let view := config.withPrefix text
    let overlay := config.overlay (withFinalPoint text)
    let ofView := store.inject view declaration target defaults?
    let ofOverlay := store.inject overlay declaration target defaults?
    (∀ key, overlay.settings.found? key =
      (config.settings.found? (withFinalPoint text ++ key)).or (config.settings.found? key)) ∧
    ofView.2.reached.target = ofOverlay.2.reached.target ∧
    ofView.2.error? = ofOverlay.2.error? ∧
    ofView.2.reached.events = ofOverlay.2.reached.events ∧
    (∀ id, (ofView.1.usage id).deprecated = (ofOverlay.1.usage id).deprecated) ∧
    ∀ name, view.has name = (store.value? view name).2.isSome := by
  intro view overlay ofView ofOverlay
  have hsame : view.FindsAs overlay := config.withPrefix_findsAs_overlay text
  have hresult : ofView.2.Alike ofOverlay.2 :=
    ((Injection.Alike.start target (store.usage config.usage)).log _).injectOptions hsame
      declaration.options
  refine ⟨?_, hresult.reached.target, hresult.error?, hresult.reached.events, ?_, ?_⟩
  · exact config.settings.found?_overlay (withFinalPoint text)
  · intro id
    exact store.usages.deprecated_get_set hresult.reached.deprecated config.usage id
  · intro name
    rw [Configuration.has_eq_isSome_find?, Store.value?, Option.isSome_map]

end TypedOptions
