import TypedOptions.Proofs.Injection.Steps
import TypedOptions.Proofs.Outcome
import TypedOptions.Store

/-!
# Secure mode

While the registry of a configuration is in secure mode, an injection that
succeeds has not found anything for an option that is not secure, under none
of its names and with none of the prefixes.  Such an option has its default.
-/

namespace TypedOptions

variable {τ : Type}

/-- The names that an option is looked up under: its own, and those that it had below the former
scope of its declaration. -/
def Declaration.lookupNames (declaration : Declaration τ) (option : OptionDeclaration τ) :
    List String :=
  declaration.nameOf option ::
    match declaration.deprecatedScope? with
    | some scope =>
        (option.deprecatedName?.toList ++ [option.name]).map (OptionName.qualify scope)
    | none => []

namespace Finding

theorem fst_choose (name : String) (current? : Option FoundValue)
    (former : List (String × FoundValue)) :
    (choose name current? former).1 = current?.or (former.head?.map Prod.snd) := by
  cases current? with
  | some current => rfl
  | none => cases former <;> rfl

theorem chosen?_ofNames (config : Configuration) (name : String) (formerNames : List String)
    (isDeprecated : Bool) :
    (ofNames config name formerNames isDeprecated).chosen? =
      (config.find? name).or (formerNames.findSome? config.find?) := by
  have hformer : formerNames.findSome? config.find? =
      (formerNames.filterMap fun former =>
        (config.find? former).map (former, ·)).head?.map Prod.snd := by
    induction formerNames with
    | nil => rfl
    | cons former rest ih =>
        cases hfind : config.find? former with
        | none => simpa [hfind] using ih
        | some setting => simp [hfind]
  rw [hformer]
  exact fst_choose _ _ _

end Finding

namespace Configuration

theorem find?_eq_none_iff {config : Configuration} {name : String} :
    config.find? name = none ↔ ∀ key ∈ config.keys name, key ∉ config.settings := by
  simp [find?, Settings.findFirst?, List.findSome?_eq_none_iff]

theorem find?_of_chosen?_eq_none {config : Configuration} {declaration : Declaration τ}
    {option : OptionDeclaration τ} {name : String}
    (hchosen : (config.finding declaration option).chosen? = none)
    (hname : name ∈ declaration.lookupNames option) : config.find? name = none := by
  rw [finding, Finding.chosen?_ofNames, Option.or_eq_none_iff, List.findSome?_eq_none_iff]
    at hchosen
  obtain ⟨hcurrent, hformer⟩ := hchosen
  by_cases hsame : name = declaration.nameOf option
  · rw [hsame, hcurrent]
  · rcases List.mem_cons.1 hname with heq | hmem
    · exact absurd heq hsame
    · apply hformer
      unfold Finding.formerNames
      cases hscope : declaration.deprecatedScope? with
      | none => simp [hscope] at hmem
      | some scope =>
          rw [hscope] at hmem
          exact List.mem_filter.2 ⟨hmem, by simpa using hsame⟩

end Configuration

namespace Injection

theorem chosen?_of_secure {given : Surroundings} {declaration : Declaration τ}
    {defaults? : Option τ} {option : OptionDeclaration τ} {injection : Injection τ}
    {expression? : Option Regex} {value? : Option Value}
    (hsecure : given.registry.isSecure = true) (hinsecure : option.isSecure = false)
    (hvalue : (injection.conversion given declaration defaults? option expression?).outcome =
      .ok value?) :
    (given.config.finding declaration option).chosen? = none := by
  cases hchosen : (given.config.finding declaration option).chosen? with
  | none => rfl
  | some setting =>
      simp [conversion, Surroundings.value?, hchosen, hsecure, hinsecure] at hvalue

theorem convertDefault_of_conversion {given : Surroundings} {declaration : Declaration τ}
    {defaults? : Option τ} {option : OptionDeclaration τ} {injection : Injection τ}
    {expression? : Option Regex} {value? : Option Value} {default : Value}
    (hchosen : (given.config.finding declaration option).chosen? = none)
    (hdefault : option.read? (defaults?.getD injection.target) = some default)
    (hvalue : (injection.conversion given declaration defaults? option expression?).outcome =
      .ok value?) :
    ∃ value, value? = some value ∧
      given.convertDefault option (declaration.nameOf option) default = .ok value := by
  simp only [conversion, Surroundings.value?, hchosen, hdefault] at hvalue
  split at hvalue
  · cases hvalue
  · obtain ⟨value, hdefault, rfl⟩ := map_eq_ok_iff.1 hvalue
    exact ⟨value, rfl, hdefault⟩

end Injection

/-! ## Fields -/

namespace OptionDeclaration

/-- The option is a field that `get` reads: what was set is read again. -/
def IsField (option : OptionDeclaration τ) (get : τ → option.type.Carrier) : Prop :=
  ∃ set, option.access = .field get set ∧ ∀ content target, get (set content target) = content

/-- The option does not write what `get` reads. -/
def Leaves {α : Type} (option : OptionDeclaration τ) (get : τ → α) : Prop :=
  match option.access with
  | .field _ set => ∀ content target, get (set content target) = get target
  | .setter call => ∀ content target, get (call content target).1 = get target

theorem get_write_of_leaves {α : Type} {option : OptionDeclaration τ} {get : τ → α}
    (hleaves : option.Leaves get) (name : String) (value : Value) (target : τ) :
    get (option.write name value target).1 = get target := by
  unfold Leaves at hleaves
  unfold write
  cases option.type.ofValue? value with
  | none => rfl
  | some content =>
      cases haccess : option.access with
      | field read set =>
          rw [haccess] at hleaves
          exact hleaves content target
      | setter call =>
          rw [haccess] at hleaves
          exact hleaves content target

theorem read?_of_isField {option : OptionDeclaration τ} {get : τ → option.type.Carrier}
    (hfield : option.IsField get) (target : τ) :
    option.read? target = some (option.type.toValue (get target)) := by
  obtain ⟨set, haccess, -⟩ := hfield
  simp [read?, haccess]

theorem ofValue?_of_write_isField {option : OptionDeclaration τ}
    {get : τ → option.type.Carrier} (hfield : option.IsField get) {name : String} {value : Value}
    {target : τ} (hwrite : (option.write name value target).2 = none) :
    option.type.ofValue? value = some (get (option.write name value target).1) := by
  obtain ⟨set, haccess, hget⟩ := hfield
  unfold write at hwrite ⊢
  cases hvalue : option.type.ofValue? value with
  | none => simp [hvalue] at hwrite
  | some content => simp [haccess, hget]

end OptionDeclaration

namespace Injection

variable {given : Surroundings} {declaration : Declaration τ} {defaults? : Option τ}

theorem get_injectOption_of_leaves {α : Type} {option : OptionDeclaration τ} {get : τ → α}
    (hleaves : option.Leaves get) (injection : Injection τ) :
    get (injection.injectOption given declaration defaults? option).reached.target =
      get injection.target := by
  have hstep := step_injectOption given declaration defaults? option injection
  generalize injection.injectOption given declaration defaults? option = result at hstep ⊢
  cases hstep with
  | unsound hcheck => rfl
  | refused hcheck hvalue => rfl
  | skipped hcheck hvalue => rfl
  | kept hcheck hvalue hequals => rfl
  | written hcheck hvalue hdiffers =>
      exact OptionDeclaration.get_write_of_leaves hleaves _ _ injection.target

theorem get_injectOptions_of_leaves {α : Type} {options : List (OptionDeclaration τ)}
    {get : τ → α} (hleaves : ∀ option ∈ options, option.Leaves get) (injection : Injection τ) :
    get (injection.injectOptions given declaration defaults? options).reached.target =
      get injection.target := by
  induction options generalizing injection with
  | nil => rfl
  | cons option rest ih =>
      have hfirst : get (injection.injectOption given declaration defaults? option).reached.target =
          get injection.target :=
        get_injectOption_of_leaves (hleaves option (by simp)) injection
      cases herror : (injection.injectOption given declaration defaults? option).error? with
      | some error => rw [injectOptions_cons_of_error rest herror, hfirst]
      | none =>
          rw [injectOptions_cons_of_ok rest herror,
            ih (fun other hother => hleaves other (List.mem_cons_of_mem _ hother)), hfirst]

/-- An option that is not secure has found nothing if it succeeds in secure mode, and if it is a
field, this field has taken its converted default or was equal to it before. -/
theorem injectOption_of_secure {option : OptionDeclaration τ} {injection next : Injection τ}
    (hsecure : given.registry.isSecure = true) (hinsecure : option.isSecure = false)
    (hnext : injection.injectOption given declaration defaults? option = ⟨next, none⟩) :
    (given.config.finding declaration option).chosen? = none ∧
      ∀ get, option.IsField get →
        ∃ value,
          given.convertDefault option (declaration.nameOf option)
            (option.type.toValue (get (defaults?.getD injection.target))) = .ok value ∧
          (option.type.ofValue? value = some (get next.target) ∨
            get next.target = get injection.target ∧
              (option.type.toValue (get injection.target)).equals value = true) := by
  have hstep := step_injectOption given declaration defaults? option injection
  rw [hnext] at hstep
  generalize hresult : (⟨next, none⟩ : InjectionResult τ) = result at hstep
  cases hstep with
  | unsound hcheck => cases hresult
  | refused hcheck hvalue => cases hresult
  | skipped hcheck hvalue =>
      have hchosen := chosen?_of_secure hsecure hinsecure hvalue
      refine ⟨hchosen, fun get hfield => ?_⟩
      obtain ⟨value, hsome, -⟩ := convertDefault_of_conversion hchosen
        (OptionDeclaration.read?_of_isField hfield _) hvalue
      cases hsome
  | kept hcheck hvalue hequals =>
      have hchosen := chosen?_of_secure hsecure hinsecure hvalue
      refine ⟨hchosen, fun get hfield => ?_⟩
      obtain ⟨value, hsome, hdefault⟩ := convertDefault_of_conversion hchosen
        (OptionDeclaration.read?_of_isField hfield _) hvalue
      cases hsome
      cases hresult
      rw [OptionDeclaration.read?_of_isField hfield] at hequals
      exact ⟨_, hdefault, Or.inr ⟨rfl, hequals⟩⟩
  | written hcheck hvalue hdiffers =>
      have hchosen := chosen?_of_secure hsecure hinsecure hvalue
      refine ⟨hchosen, fun get hfield => ?_⟩
      obtain ⟨value, hsome, hdefault⟩ := convertDefault_of_conversion hchosen
        (OptionDeclaration.read?_of_isField hfield _) hvalue
      cases hsome
      obtain ⟨hreached, hwrite⟩ := InjectionResult.mk.inj hresult
      rw [hreached]
      exact ⟨_, hdefault,
        Or.inl (OptionDeclaration.ofValue?_of_write_isField hfield hwrite.symm)⟩

end Injection

/-- In secure mode an injection that succeeds has not used any setting of an option that is not
secure: there is none, whatever the names and prefixes, and a field that no other option writes
takes its converted default unless it was equal to it before. -/
theorem insecure_options_unset (store : Store) (config : Configuration)
    (declaration : Declaration τ) (target : τ) (defaults? : Option τ)
    (hsecure : (store.registry config.registry).isSecure = true)
    (hok : (store.inject config declaration target defaults?).2.error? = none) :
    ∀ option ∈ declaration.options, option.isSecure = false →
      (∀ name ∈ declaration.lookupNames option, ∀ key ∈ config.keys name,
        key ∉ config.settings) ∧
      ∀ before after get,
        declaration.options = before ++ option :: after → option.IsField get →
        (∀ other ∈ before ++ after, other.Leaves get) →
          ∃ value,
            Surroundings.convertDefault ⟨config, store.registries⟩ option
              (declaration.nameOf option)
              (option.type.toValue (get (defaults?.getD target))) = .ok value ∧
            let final := (store.inject config declaration target defaults?).2.reached.target
            option.type.ofValue? value = some (get final) ∨
              get final = get target ∧ (option.type.toValue (get target)).equals value = true := by
  intro option hmem hinsecure
  simp only [Store.inject, Injection.injectAll] at hok ⊢
  generalize hstart : (Injection.start target (store.usage config.usage)).log _ = start at hok ⊢
  have htarget : start.target = target := by
    rw [← hstart]
    rfl
  have hgiven : (⟨config, store.registries⟩ : Surroundings).registry.isSecure = true := hsecure
  constructor
  · obtain ⟨before, after, hoptions⟩ := List.append_of_mem hmem
    rw [hoptions] at hok
    obtain ⟨middle, next, -, hnext, -⟩ := Injection.exists_of_injectOptions_ok hok
    have hchosen := (Injection.injectOption_of_secure hgiven hinsecure hnext).1
    intro name hname
    exact Configuration.find?_eq_none_iff.1
      (Configuration.find?_of_chosen?_eq_none hchosen hname)
  · intro before after get hoptions hfield hleaves
    rw [hoptions] at hok ⊢
    obtain ⟨middle, next, hmiddle, hnext, hfinal⟩ := Injection.exists_of_injectOptions_ok hok
    obtain ⟨value, hdefault, hheld⟩ :=
      (Injection.injectOption_of_secure hgiven hinsecure hnext).2 get hfield
    have hbefore : get (start.injectOptions ⟨config, store.registries⟩ declaration defaults?
        before).reached.target = get start.target :=
      Injection.get_injectOptions_of_leaves
        (fun other hother => hleaves other (List.mem_append_left _ hother)) start
    rw [hmiddle, htarget] at hbefore
    have hafter : get (next.injectOptions ⟨config, store.registries⟩ declaration defaults?
        after).reached.target = get next.target :=
      Injection.get_injectOptions_of_leaves
        (fun other hother => hleaves other (List.mem_append_right _ hother)) next
    have hsource : get (defaults?.getD middle.target) = get (defaults?.getD target) := by
      cases defaults? with
      | none => exact hbefore
      | some defaults => rfl
    refine ⟨value, hsource ▸ hdefault, ?_⟩
    rw [hfinal, hafter]
    rwa [hbefore] at hheld

/-! ## A sample -/

namespace SecureSample

def plain : OptionDeclaration (String × String) :=
  .ofField "plain" (.element .string) Prod.fst fun value pair => (value, pair.2)

def trusted : OptionDeclaration (String × String) :=
  { OptionDeclaration.ofField "trusted" (.element .string) Prod.snd
      (fun value (pair : String × String) => (pair.1, value)) with isSecure := true }

def declaration : Declaration (String × String) :=
  ⟨"p", some "q", "", [plain, trusted]⟩

def store : Store :=
  ((Store.initial (.ofDisk (.ofWorkingDirectory []))).enableSecure "r").1

/-- A view below `v` that sets the secure option only. -/
def config : Configuration :=
  { Configuration.empty "r" false 0 (.memory .empty) with
    settings := .ofSettings [("v.p.trusted", ⟨"b", .manual⟩)]
    keyPrefix := "v." }

theorem isField_plain : plain.IsField Prod.fst :=
  ⟨_, rfl, fun _ _ => rfl⟩

theorem leaves_trusted : trusted.Leaves (Prod.fst : String × String → String) :=
  fun _ _ => rfl

theorem insecure_options_unset_sample :
    (store.registry config.registry).isSecure = true ∧
      (store.inject config declaration ("a", "c") none).2.error? = none ∧
      "v.q.plain" ∉ config.settings ∧
      ∃ value,
        Surroundings.convertDefault ⟨config, store.registries⟩ plain "p.plain" (.string "a") =
          .ok value ∧
        let final := (store.inject config declaration ("a", "c") none).2.reached.target
        plain.type.ofValue? value = some final.1 ∨
          final.1 = "a" ∧ (Value.string "a").equals value = true := by
  have hsecure : (store.registry config.registry).isSecure = true := by
    decide +kernel
  have hok : (store.inject config declaration ("a", "c") none).2.error? = none := by
    decide +kernel
  obtain ⟨hunset, hfield⟩ := insecure_options_unset store config declaration ("a", "c") none
    hsecure hok plain List.mem_cons_self rfl
  refine ⟨hsecure, hok, hunset "q.plain" (by decide +kernel) "v.q.plain" (by decide +kernel), ?_⟩
  refine hfield [] [trusted] Prod.fst rfl isField_plain ?_
  intro other hother
  rw [List.mem_singleton.1 hother]
  exact leaves_trusted

end SecureSample

end TypedOptions
