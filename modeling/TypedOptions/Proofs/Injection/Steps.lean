import TypedOptions.Injection.Basic

/-!
# The steps of an injection

The injection of one option ends in one of five ways: its declaration is not
sound, its text or default is refused, there is nothing to write, the object
holds the value already, or the value is written.  A whole injection is a row
of such steps, each of which starts where the one before it ended.
-/

namespace TypedOptions

variable {τ : Type}

def Declaration.nameOf (declaration : Declaration τ) (option : OptionDeclaration τ) : String :=
  OptionName.qualify declaration.scope option.name

def Configuration.finding (config : Configuration) (declaration : Declaration τ)
    (option : OptionDeclaration τ) : Finding :=
  Finding.ofNames config (declaration.nameOf option)
    (Finding.formerNames declaration option (declaration.nameOf option)) option.isDeprecated

/-- Whether the use of an option is reported has no influence on what its text is converted to. -/
theorem Surroundings.outcome_convert (given : Surroundings) (option : OptionDeclaration τ)
    (name : String) (expression? : Option Regex) (setting : FoundValue) :
    (given.convert option name expression? setting).outcome =
      match option.textFault? expression? setting.value with
      | some fault => .error (.configuration (.value setting.value name fault))
      | none =>
          option.convertText ((given.converter option).convert given.registries.resources
            (context option name setting.source?)) (option.convertedText setting.value) := by
  unfold convert
  cases option.textFault? expression? setting.value with
  | some fault => rfl
  | none =>
      dsimp only
      split
      · rw [Logged.outcome_bind, Logged.outcome_log]
        rfl
      · rfl

namespace Injection

section Step

variable (given : Surroundings) (declaration : Declaration τ) (defaults? : Option τ)
  (option : OptionDeclaration τ) (injection : Injection τ)

/-- What the setting that was found, or else the default, amounts to. -/
def conversion (expression? : Option Regex) : Logged OptionError (Option Value) :=
  given.value? option (declaration.nameOf option) expression?
    (given.config.finding declaration option).chosen?
    (option.read? (defaults?.getD injection.target))

/-- The injection after the look-up and the conversion, before anything is written. -/
def afterConversion (expression? : Option Regex) : Injection τ :=
  { injection with
    usage := (given.config.finding declaration option).record injection.usage }.log
    ((given.config.finding declaration option).events ++
      (injection.conversion given declaration defaults? option expression?).events)

/-- The ways in which the injection of one option ends. -/
inductive Step : InjectionResult τ → Prop where
  | unsound {error : OptionError}
      (hcheck : option.check given.registries.sizeLimit (declaration.nameOf option) =
        .error error) :
      Step ⟨injection, some error⟩
  | refused {expression? : Option Regex} {error : OptionError}
      (hcheck : option.check given.registries.sizeLimit (declaration.nameOf option) =
        .ok expression?)
      (hvalue : (injection.conversion given declaration defaults? option
        expression?).outcome = .error error) :
      Step ⟨injection.afterConversion given declaration defaults? option expression?, some error⟩
  | skipped {expression? : Option Regex}
      (hcheck : option.check given.registries.sizeLimit (declaration.nameOf option) =
        .ok expression?)
      (hvalue : (injection.conversion given declaration defaults? option
        expression?).outcome = .ok none) :
      Step ⟨injection.afterConversion given declaration defaults? option expression?, none⟩
  | kept {expression? : Option Regex} {value : Value}
      (hcheck : option.check given.registries.sizeLimit (declaration.nameOf option) =
        .ok expression?)
      (hvalue : (injection.conversion given declaration defaults? option
        expression?).outcome = .ok (some value))
      (hequals : (option.read? injection.target).any (·.equals value) = true) :
      Step
        ⟨(injection.afterConversion given declaration defaults? option expression?).log
          [.keeping (declaration.nameOf option) value.text], none⟩
  | written {expression? : Option Regex} {value : Value}
      (hcheck : option.check given.registries.sizeLimit (declaration.nameOf option) =
        .ok expression?)
      (hvalue : (injection.conversion given declaration defaults? option
        expression?).outcome = .ok (some value))
      (hdiffers : (option.read? injection.target).any (·.equals value) = false) :
      Step
        ⟨{ (injection.afterConversion given declaration defaults? option expression?).log
            [.setting (declaration.nameOf option) value.text] with
            target := (option.write (declaration.nameOf option) value injection.target).1 },
          (option.write (declaration.nameOf option) value injection.target).2⟩

theorem injectOption_of_check_eq_error {error : OptionError}
    (hcheck : option.check given.registries.sizeLimit (declaration.nameOf option) = .error error) :
    injection.injectOption given declaration defaults? option = ⟨injection, some error⟩ := by
  unfold injectOption
  rw [show OptionName.qualify declaration.scope option.name = declaration.nameOf option from rfl]
  simp only [hcheck]

theorem injectOption_of_check_eq_ok {expression? : Option Regex}
    (hcheck : option.check given.registries.sizeLimit (declaration.nameOf option) =
      .ok expression?) :
    injection.injectOption given declaration defaults? option =
      match (injection.conversion given declaration defaults? option expression?).outcome with
      | .error error =>
          ⟨injection.afterConversion given declaration defaults? option expression?, some error⟩
      | .ok none =>
          ⟨injection.afterConversion given declaration defaults? option expression?, none⟩
      | .ok (some value) =>
          (injection.afterConversion given declaration defaults? option expression?).store option
            (declaration.nameOf option) value (option.read? injection.target) := by
  unfold injectOption
  rw [show OptionName.qualify declaration.scope option.name = declaration.nameOf option from rfl]
  simp only [hcheck]
  rfl

theorem step_injectOption :
    Step given declaration defaults? option injection
      (injection.injectOption given declaration defaults? option) := by
  cases hcheck : option.check given.registries.sizeLimit (declaration.nameOf option) with
  | error error =>
      rw [injectOption_of_check_eq_error _ _ _ _ _ hcheck]
      exact .unsound hcheck
  | ok expression? =>
      rw [injectOption_of_check_eq_ok _ _ _ _ _ hcheck]
      split
      · rename_i hvalue
        exact .refused hcheck hvalue
      · rename_i hvalue
        exact .skipped hcheck hvalue
      · rename_i value hvalue
        unfold store
        split
        · rename_i hequals
          exact .kept hcheck hvalue hequals
        · rename_i hdiffers
          exact .written hcheck hvalue (Bool.not_eq_true _ ▸ hdiffers)

end Step

/-! ## Runs -/

section Run

variable {given : Surroundings} {declaration : Declaration τ} {defaults? : Option τ}

theorem injectOptions_append (before after : List (OptionDeclaration τ))
    (injection : Injection τ) :
    injection.injectOptions given declaration defaults? (before ++ after) =
      match (injection.injectOptions given declaration defaults? before).error? with
      | some _ => injection.injectOptions given declaration defaults? before
      | none =>
          (injection.injectOptions given declaration defaults? before).reached.injectOptions given
            declaration defaults? after := by
  induction before generalizing injection with
  | nil => rfl
  | cons option rest ih =>
      cases herror : (injection.injectOption given declaration defaults? option).error? with
      | some error => simp [injectOptions, herror]
      | none =>
          rw [List.cons_append, injectOptions_cons_of_ok _ herror, ih,
            injectOptions_cons_of_ok _ herror]

/-- A run that succeeds passes through every one of its options. -/
theorem exists_of_injectOptions_ok {before after : List (OptionDeclaration τ)}
    {option : OptionDeclaration τ} {injection : Injection τ}
    (hok : (injection.injectOptions given declaration defaults?
      (before ++ option :: after)).error? = none) :
    ∃ middle next,
      injection.injectOptions given declaration defaults? before = ⟨middle, none⟩ ∧
      middle.injectOption given declaration defaults? option = ⟨next, none⟩ ∧
      injection.injectOptions given declaration defaults? (before ++ option :: after) =
        next.injectOptions given declaration defaults? after := by
  rw [injectOptions_append] at hok ⊢
  generalize hbefore : injection.injectOptions given declaration defaults? before = first
    at hok ⊢
  obtain ⟨middle, error?⟩ := first
  cases error? with
  | some error => cases hok
  | none =>
      simp only at hok ⊢
      generalize hoption : middle.injectOption given declaration defaults? option = second
      obtain ⟨next, error?⟩ := second
      cases error? with
      | some error =>
          rw [injectOptions_cons_of_error after (by rw [hoption]), hoption] at hok
          cases hok
      | none =>
          refine ⟨middle, next, rfl, hoption, ?_⟩
          rw [injectOptions_cons_of_ok after (by rw [hoption]), hoption]

/-- A run that fails is a run that succeeds, and then the option that fails. -/
theorem exists_failing_option {options : List (OptionDeclaration τ)} {injection : Injection τ}
    {error : OptionError}
    (herror : (injection.injectOptions given declaration defaults? options).error? = some error) :
    ∃ before option after middle, options = before ++ option :: after ∧
      injection.injectOptions given declaration defaults? before = ⟨middle, none⟩ ∧
      (middle.injectOption given declaration defaults? option).error? = some error := by
  induction options generalizing injection with
  | nil => cases herror
  | cons first rest ih =>
      cases hfirst : (injection.injectOption given declaration defaults? first).error? with
      | some cause =>
          rw [injectOptions_cons_of_error rest hfirst] at herror
          exact ⟨[], first, rest, injection, rfl, rfl, herror⟩
      | none =>
          rw [injectOptions_cons_of_ok rest hfirst] at herror
          obtain ⟨before, option, after, middle, rfl, hbefore, hoption⟩ := ih herror
          refine ⟨first :: before, option, after, middle, rfl, ?_, hoption⟩
          rw [injectOptions_cons_of_ok before hfirst, hbefore]

/-- The options behind the one that fails play no role. -/
theorem injectOptions_of_failing {before : List (OptionDeclaration τ)}
    {option : OptionDeclaration τ} {injection middle : Injection τ} {error : OptionError}
    (after : List (OptionDeclaration τ))
    (hbefore : injection.injectOptions given declaration defaults? before = ⟨middle, none⟩)
    (hoption : (middle.injectOption given declaration defaults? option).error? = some error) :
    injection.injectOptions given declaration defaults? (before ++ option :: after) =
      middle.injectOption given declaration defaults? option := by
  rw [injectOptions_append, hbefore]
  exact injectOptions_cons_of_error after hoption

end Run

end Injection

end TypedOptions
