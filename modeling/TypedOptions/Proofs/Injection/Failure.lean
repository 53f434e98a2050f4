import TypedOptions.Proofs.Usage.Asking

/-!
# Injections that fail

An injection ends with the first option that fails.  Whatever has gone wrong
with it, the option has not written anything, unless it is a setter that was
called and did not take the value.  So the object is what the options before
have made of it, and the options behind have not even been looked up.
-/

namespace TypedOptions

variable {τ : Type}

/-- The same declaration with other options. -/
def Declaration.withOptions (declaration : Declaration τ) (options : List (OptionDeclaration τ)) :
    Declaration τ :=
  { declaration with options }

/-! ## What a run does not depend on -/

/-- The injection with messages that were sent before those of its own. -/
def Injection.precede (events : List LogEvent) (injection : Injection τ) : Injection τ :=
  { injection with events := events ++ injection.events }

def InjectionResult.precede (events : List LogEvent) (result : InjectionResult τ) :
    InjectionResult τ :=
  { result with reached := result.reached.precede events }

namespace Injection

section Independence

variable {given : Surroundings} {declaration : Declaration τ} {defaults? : Option τ}

theorem log_precede (earlier events : List LogEvent) (injection : Injection τ) :
    (injection.precede earlier).log events = (injection.log events).precede earlier := by
  simp only [log, precede, List.append_assoc]

theorem store_precede (earlier : List LogEvent) (option : OptionDeclaration τ) (name : String)
    (value : Value) (current? : Option Value) (injection : Injection τ) :
    (injection.precede earlier).store option name value current? =
      (injection.store option name value current?).precede earlier := by
  simp only [store, log_precede]
  split <;> rfl

theorem injectOption_precede (earlier : List LogEvent) (option : OptionDeclaration τ)
    (injection : Injection τ) :
    (injection.precede earlier).injectOption given declaration defaults? option =
      (injection.injectOption given declaration defaults? option).precede earlier := by
  cases hcheck : option.check given.registries.sizeLimit (declaration.nameOf option) with
  | error error =>
      rw [injectOption_of_check_eq_error _ _ _ _ _ hcheck,
        injectOption_of_check_eq_error _ _ _ _ _ hcheck]
      rfl
  | ok expression? =>
      have hafter : (injection.precede earlier).afterConversion given declaration defaults? option
          expression? =
          (injection.afterConversion given declaration defaults? option expression?).precede
            earlier :=
        log_precede earlier _
          { injection with
            usage := (given.config.finding declaration option).record injection.usage }
      have hconversion : (injection.precede earlier).conversion given declaration defaults? option
          expression? = injection.conversion given declaration defaults? option expression? :=
        rfl
      rw [injectOption_of_check_eq_ok _ _ _ _ _ hcheck,
        injectOption_of_check_eq_ok _ _ _ _ _ hcheck, hafter, hconversion]
      split
      · rfl
      · rfl
      · exact store_precede ..

/-- Messages that were sent before have no influence on an injection. -/
theorem injectOptions_precede (earlier : List LogEvent) (options : List (OptionDeclaration τ))
    (injection : Injection τ) :
    (injection.precede earlier).injectOptions given declaration defaults? options =
      (injection.injectOptions given declaration defaults? options).precede earlier := by
  induction options generalizing injection with
  | nil => rfl
  | cons option rest ih =>
      have hstep : (injection.precede earlier).injectOption given declaration defaults? option =
          (injection.injectOption given declaration defaults? option).precede earlier :=
        injectOption_precede earlier option injection
      have hsame := congrArg InjectionResult.error? hstep
      cases herror : (injection.injectOption given declaration defaults? option).error? with
      | some error =>
          rw [injectOptions_cons_of_error rest herror,
            injectOptions_cons_of_error rest (hsame.trans herror), hstep]
      | none =>
          rw [injectOptions_cons_of_ok rest herror,
            injectOptions_cons_of_ok rest (hsame.trans herror), hstep]
          exact ih _

/-- Of the declaration an injection needs the scopes and the options that it is to run through. -/
theorem injectOptions_withOptions (declared options : List (OptionDeclaration τ))
    (injection : Injection τ) :
    injection.injectOptions given (declaration.withOptions declared) defaults? options =
      injection.injectOptions given declaration defaults? options := by
  induction options generalizing injection with
  | nil => rfl
  | cons option rest ih =>
      simp only [injectOptions, ih]
      rfl

end Independence

end Injection

/-! ## What was written -/

/-- The option is a setter that does not take what the value stands for. -/
def OptionDeclaration.Refuses (option : OptionDeclaration τ) (value : Value) (target : τ) : Prop :=
  ∃ call content refusal, option.access = .setter call ∧
    option.type.ofValue? value = some content ∧ (call content target).2 = some refusal

theorem OptionDeclaration.target_of_write_error {option : OptionDeclaration τ} {name : String}
    {value : Value} {target : τ} {error : OptionError}
    (herror : (option.write name value target).2 = some error)
    (hrefuses : ¬option.Refuses value target) : (option.write name value target).1 = target := by
  unfold write at herror ⊢
  cases hcontent : option.type.ofValue? value with
  | none => rfl
  | some content =>
      rw [hcontent] at herror
      cases haccess : option.access with
      | field get set =>
          rw [haccess] at herror
          cases herror
      | setter call =>
          rw [haccess] at herror
          obtain ⟨refusal, hrefusal, -⟩ := Option.map_eq_some_iff.1 herror
          exact absurd ⟨call, content, refusal, haccess, hcontent, hrefusal⟩ hrefuses

namespace Injection

/-- The option has come to a value, and its setter was called and did not take it. -/
def RefusedBySetter (given : Surroundings) (declaration : Declaration τ) (defaults? : Option τ)
    (option : OptionDeclaration τ) (injection : Injection τ) : Prop :=
  ∃ expression? value,
    option.check given.registries.sizeLimit (declaration.nameOf option) = .ok expression? ∧
    (injection.conversion given declaration defaults? option expression?).outcome =
      .ok (some value) ∧
    option.Refuses value injection.target

variable {given : Surroundings} {declaration : Declaration τ} {defaults? : Option τ}

/-- An option that fails leaves the object as it is, unless its setter is to blame. -/
theorem target_of_failing {option : OptionDeclaration τ} {injection : Injection τ}
    {error : OptionError}
    (herror : (injection.injectOption given declaration defaults? option).error? = some error)
    (hown : ¬injection.RefusedBySetter given declaration defaults? option) :
    (injection.injectOption given declaration defaults? option).reached.target =
      injection.target := by
  have hstep := step_injectOption given declaration defaults? option injection
  generalize injection.injectOption given declaration defaults? option = result at herror hstep ⊢
  cases hstep with
  | unsound hcheck => rfl
  | refused hcheck hvalue => rfl
  | skipped hcheck hvalue => cases herror
  | kept hcheck hvalue hequals => cases herror
  | written hcheck hvalue hdiffers =>
      exact OptionDeclaration.target_of_write_error herror fun hrefuses =>
        hown ⟨_, _, hcheck, hvalue, hrefuses⟩

end Injection

/-! ## Whole injections -/

theorem Store.inject_withOptions (store : Store) (config : Configuration)
    (declaration : Declaration τ) (options : List (OptionDeclaration τ)) (target : τ)
    (defaults? : Option τ) :
    let result := (Injection.start target (store.usage config.usage)).injectOptions
      ⟨config, store.registries⟩ declaration defaults? options
    store.inject config (declaration.withOptions options) target defaults? =
      (store.setUsage config.usage result.reached.usage,
        result.precede [.injecting options.length declaration.scope]) := by
  intro result
  have hlog : (Injection.start target (store.usage config.usage)).log
      [.injecting options.length declaration.scope] =
      (Injection.start target (store.usage config.usage)).precede
        [.injecting options.length declaration.scope] := rfl
  have hresult : (Injection.start target (store.usage config.usage)).injectAll
      ⟨config, store.registries⟩ (declaration.withOptions options) defaults? =
      result.precede [.injecting options.length declaration.scope] := by
    unfold Injection.injectAll
    rw [Injection.injectOptions_withOptions]
    exact (congrArg _ hlog).trans (Injection.injectOptions_precede _ options _)
  unfold Store.inject
  rw [hresult]
  rfl

/-- An injection that fails has an option at which it does: the options before it are injected
successfully, and the ones behind it play no role, neither for the object nor for any record of
usage.  Unless it is a setter that was called and refuses the value, the object is what the options
before it have made of it, so that its field and the fields behind it have not been touched.  Only
the names of this option are looked up beyond those of the options before it. -/
theorem failure_leaves_clean_prefix (store : Store) (config : Configuration)
    (declaration : Declaration τ) (target : τ) (defaults? : Option τ) {error : OptionError}
    (herror : (store.inject config declaration target defaults?).2.error? = some error) :
    ∃ before option after, declaration.options = before ++ option :: after ∧
      let failed := store.inject config declaration target defaults?
      let truncated := store.inject config (declaration.withOptions before) target defaults?
      let through :=
        store.inject config (declaration.withOptions (before ++ [option])) target defaults?
      truncated.2.error? = none ∧ through.2.error? = some error ∧
      failed.1 = through.1 ∧ failed.2.reached.target = through.2.reached.target ∧
      (¬truncated.2.reached.RefusedBySetter ⟨config, store.registries⟩ declaration defaults?
          option →
        failed.2.reached.target = truncated.2.reached.target ∧
        ∀ other ∈ option :: after, ∀ get set, other.access = .field get set →
          (∀ earlier ∈ before, earlier.Leaves get) → get failed.2.reached.target = get target) ∧
      ∀ key, key ∈ failed.2.reached.usage.unused ↔
        key ∈ truncated.2.reached.usage.unused ∧
          ∀ name ∈ declaration.askedNames store.registries.sizeLimit option,
            key ∉ config.probes name := by
  have hself := store.inject_withOptions config declaration declaration.options target defaults?
  rw [show declaration.withOptions declaration.options = declaration from rfl] at hself
  rw [hself] at herror
  obtain ⟨before, option, after, middle, hoptions, hbefore, hoption⟩ :=
    Injection.exists_failing_option herror
  have hfailed := Injection.injectOptions_of_failing after hbefore hoption
  have hthrough := Injection.injectOptions_of_failing [] hbefore hoption
  refine ⟨before, option, after, hoptions, ?_⟩
  rw [hself, hoptions, store.inject_withOptions, store.inject_withOptions, hbefore, hfailed,
    hthrough]
  refine ⟨rfl, hoption, rfl, rfl, fun hown => ?_, fun key => Injection.mem_unused_injectOption⟩
  have htarget := Injection.target_of_failing hoption hown
  refine ⟨htarget, fun other _ get set _ hleaves => ?_⟩
  have hkept : get ((Injection.start target (store.usage config.usage)).injectOptions
      ⟨config, store.registries⟩ declaration defaults? before).reached.target = get target :=
    Injection.get_injectOptions_of_leaves hleaves _
  rw [hbefore] at hkept
  exact (congrArg get htarget).trans hkept

/-! ## A sample -/

namespace FailureSample

abbrev Target : Type :=
  String × (FieldType.list (.element .int)).Carrier × String

def title : OptionDeclaration Target :=
  .ofField "title" (.element .string) Prod.fst fun title target => (title, target.2)

def counts : OptionDeclaration Target :=
  .ofField "counts" (.list (.element .int)) (fun target => target.2.1)
    fun counts target => (target.1, counts, target.2.2)

def label : OptionDeclaration Target :=
  .ofField "label" (.element .string) (fun target => target.2.2)
    fun label target => (target.1, target.2.1, label)

def declaration : Declaration Target :=
  ⟨"", none, "", [title, counts, label]⟩

def store : Store :=
  (Store.initial (.ofDisk (.ofWorkingDirectory []))).addUsage
    (Usage.empty.addUnused ["title", "counts", "label"])

def target : Target := ("", ([7] : List Int32), "c")

/-- The second number is none. -/
def config : Configuration :=
  { Configuration.empty "r" false 0 (.memory .empty) with
    settings := .ofSettings [("title", ⟨"a", .manual⟩), ("counts", ⟨"1,x", .manual⟩),
      ("label", ⟨"b", .manual⟩)] }

/-- The conversion fails in the middle of the numbers: none of them is stored, the title before
them is, and the label behind them is not even looked up. -/
theorem failure_leaves_clean_prefix_sample :
    (store.inject config declaration target none).2.error? =
        some (.configuration (.value "x" "counts" (.integer .invalidDigit))) ∧
      (store.inject config declaration target none).2.reached.target =
        (store.inject config (declaration.withOptions [title]) target none).2.reached.target ∧
      (store.inject config declaration target none).2.reached.target.2.1 = target.2.1 ∧
      "label" ∈ (store.inject config declaration target none).2.reached.usage.unused := by
  have herror : (store.inject config declaration target none).2.error? =
      some (.configuration (.value "x" "counts" (.integer .invalidDigit))) := by
    decide +kernel
  obtain ⟨before, option, after, hoptions, htruncated, hthrough, -, -, hclean, hunused⟩ :=
    failure_leaves_clean_prefix store config declaration target none herror
  -- Of the three options it is the second one that fails.
  have htitle :
      (store.inject config (declaration.withOptions [title]) target none).2.error? = none := by
    decide +kernel
  have hcounts :
      (store.inject config (declaration.withOptions [title, counts]) target none).2.error? ≠
        none := by
    decide +kernel
  match before, hoptions with
  | [], hoptions =>
      cases hoptions
      rw [List.nil_append, htitle] at hthrough
      cases hthrough
  | [first], hoptions =>
      cases hoptions
      obtain ⟨htarget, hfields⟩ := hclean fun hrefused => by
        obtain ⟨-, -, -, -, call, -, -, haccess, -⟩ := hrefused
        cases haccess
      refine ⟨herror, htarget, ?_, (hunused "label").2 ⟨?_, ?_⟩⟩
      · exact hfields counts List.mem_cons_self _ _ rfl
          (List.forall_mem_singleton.2 fun _ _ => rfl)
      · decide +kernel
      · decide +kernel
  | [first, second], hoptions =>
      cases hoptions
      exact absurd htruncated hcounts
  | first :: second :: third :: rest, hoptions =>
      have hlength := congrArg List.length hoptions
      simp [declaration] at hlength

end FailureSample

end TypedOptions
