import TypedOptions.Proofs.Injection.Order
import TypedOptions.Proofs.Injection.Overwriting

/-!
# Runs over fields of their own

Where no option writes the field of another one, a run comes down to what it
makes of each field alone.  The run succeeds if every option does on the object
at hand before the run, and every field ends with what its own option makes of
the content and of the default that it had then.
-/

namespace TypedOptions

variable {τ : Type}

namespace OptionDeclaration

/-- What a field that holds `held` makes of a value that it is offered. -/
def take? (option : OptionDeclaration τ) (held : option.type.Carrier) (value : Value) :
    Option option.type.Carrier :=
  if (option.type.toValue held).equals value then some held else option.type.ofValue? value

/-- A field that has taken a value takes it again. -/
theorem take?_again {option : OptionDeclaration τ} {held next : option.type.Carrier}
    {value : Value} (hnext : option.take? held value = some next) :
    option.take? next value = some next := by
  by_cases hequals : (option.type.toValue held).equals value = true
  · rw [take?, if_pos hequals] at hnext
    cases hnext
    rw [take?, if_pos hequals]
  · rw [take?, if_neg hequals] at hnext
    by_cases hheld : (option.type.toValue next).equals value = true
    · rw [take?, if_pos hheld]
    · rw [take?, if_neg hheld, hnext]

theorem isSome_take? {option : OptionDeclaration τ} {value : Value}
    (haccepts : option.type.Accepts value) (held : option.type.Carrier) :
    (option.take? held value).isSome = true := by
  unfold take?
  split
  · rfl
  · exact haccepts

theorem Independent.leaves {first second : OptionDeclaration τ}
    (hindependent : first.Independent second) {get : τ → second.type.Carrier}
    (hfield : second.IsField get) : first.Leaves get := by
  obtain ⟨set, haccess, -⟩ := hfield
  exact hindependent.fst_leaves get set haccess

end OptionDeclaration

namespace Injection

/-! ## One field -/

section Field

variable (given : Surroundings) (declaration : Declaration τ) (option : OptionDeclaration τ)

/-- What a field is offered: the value of its setting, or that of its default if it has none. -/
inductive Offers (default value : Value) : Prop where
  | setting {expression? : Option Regex} {setting : FoundValue}
      (hcheck : option.check given.registries.sizeLimit (declaration.nameOf option) =
        .ok expression?)
      (hchosen : (given.config.finding declaration option).chosen? = some setting)
      (hsecure : (!option.isSecure && given.registry.isSecure) = false)
      (hvalue : (given.convert option (declaration.nameOf option) expression? setting).outcome =
        .ok value) :
      Offers default value
  | default {expression? : Option Regex}
      (hcheck : option.check given.registries.sizeLimit (declaration.nameOf option) =
        .ok expression?)
      (hunset : (given.config.finding declaration option).chosen? = none)
      (hoptional : option.isRequired = false)
      (hvalue : given.convertDefault option (declaration.nameOf option) default = .ok value) :
      Offers default value

/-- What a field that has held `held` holds after its option was injected. -/
def fieldAfter? (default held : option.type.Carrier) : Option option.type.Carrier :=
  (decision? given declaration option (some (option.type.toValue held))
    (some (option.type.toValue default))).map (·.getD held)

variable {given declaration option}

theorem exists_offer {default : Value} {value? : Option Value}
    (hoffered : offered? given declaration option (some default) = some value?) :
    ∃ value, value? = some value ∧ Offers given declaration option default value := by
  unfold offered? at hoffered
  cases hcheck : option.check given.registries.sizeLimit (declaration.nameOf option) with
  | error error =>
      rw [hcheck] at hoffered
      cases hoffered
  | ok expression? =>
      rw [hcheck] at hoffered
      have houtcome := toOption_eq_some_iff.1 hoffered
      unfold Surroundings.value? at houtcome
      cases hchosen : (given.config.finding declaration option).chosen? with
      | some setting =>
          rw [hchosen] at houtcome
          cases hsecure : !option.isSecure && given.registry.isSecure with
          | true =>
              simp only [hsecure, if_true] at houtcome
              cases houtcome
          | false =>
              simp only [hsecure, Bool.false_eq_true, if_false, outcome_map] at houtcome
              obtain ⟨value, hvalue, rfl⟩ := map_eq_ok_iff.1 houtcome
              exact ⟨value, rfl, .setting hcheck hchosen hsecure hvalue⟩
      | none =>
          rw [hchosen] at houtcome
          cases hoptional : option.isRequired with
          | true =>
              simp only [hoptional, if_true] at houtcome
              cases houtcome
          | false =>
              simp only [hoptional, Bool.false_eq_true, if_false] at houtcome
              obtain ⟨value, hvalue, rfl⟩ := map_eq_ok_iff.1 houtcome
              exact ⟨value, rfl, .default hcheck hchosen hoptional hvalue⟩

theorem Offers.offered?_eq {default value : Value}
    (hoffers : Offers given declaration option default value) :
    offered? given declaration option (some default) = some (some value) := by
  cases hoffers with
  | setting hcheck hchosen hsecure hvalue =>
      simp only [offered?, hcheck, Surroundings.value?, hchosen, hsecure, Bool.false_eq_true,
        if_false, outcome_map, hvalue]
      rfl
  | default hcheck hunset hoptional hvalue =>
      simp only [offered?, hcheck, Surroundings.value?, hunset, hoptional, Bool.false_eq_true,
        if_false, hvalue]
      rfl

theorem Offers.sound {default value : Value}
    (hoffers : Offers given declaration option default value) :
    option.fault? (declaration.nameOf option) = none := by
  cases hoffers with
  | setting hcheck => exact OptionDeclaration.fault?_of_check hcheck
  | default hcheck => exact OptionDeclaration.fault?_of_check hcheck

variable {default held next : option.type.Carrier}

theorem Offers.fieldAfter?_eq {value : Value}
    (hoffers : Offers given declaration option (option.type.toValue default) value) :
    fieldAfter? given declaration option default held = option.take? held value := by
  simp only [fieldAfter?, decision?, hoffers.offered?_eq, Option.any_some,
    OptionDeclaration.take?]
  split
  · rfl
  · cases option.type.ofValue? value <;> rfl

theorem fieldAfter?_eq_some_iff :
    fieldAfter? given declaration option default held = some next ↔
      ∃ value, Offers given declaration option (option.type.toValue default) value ∧
        option.take? held value = some next := by
  constructor
  · intro hnext
    cases hoffered : offered? given declaration option (some (option.type.toValue default)) with
    | none => simp [fieldAfter?, decision?, hoffered] at hnext
    | some value? =>
        obtain ⟨value, -, hoffers⟩ := exists_offer hoffered
        rw [hoffers.fieldAfter?_eq] at hnext
        exact ⟨value, hoffers, hnext⟩
  · rintro ⟨value, hoffers, htaken⟩
    rw [hoffers.fieldAfter?_eq, htaken]

end Field

/-! ## Runs -/

section Run

variable {given : Surroundings} {declaration : Declaration τ} {defaults? : Option τ}
  {options : List (OptionDeclaration τ)}

/-- The injection of an option that is a field amounts to what it makes of the field. -/
theorem fieldAfter?_injectOption {option : OptionDeclaration τ} {get : τ → option.type.Carrier}
    (hfield : option.IsField get) {injection : Injection τ}
    (hok : (injection.injectOption given declaration defaults? option).error? = none) :
    fieldAfter? given declaration option (get (defaults?.getD injection.target))
        (get injection.target) =
      some (get (injection.injectOption given declaration defaults? option).reached.target) := by
  obtain ⟨set, haccess, hget⟩ := hfield
  obtain ⟨content?, hdecision, hreached⟩ := exists_decision_of_ok haccess hok
  rw [OptionDeclaration.read?_of_access haccess] at hdecision
  rw [fieldAfter?, hdecision, hreached]
  cases content? with
  | none => rfl
  | some content => exact congrArg some (hget content _).symm

theorem ok_of_fieldAfter? {option : OptionDeclaration τ} {get : τ → option.type.Carrier}
    (hfield : option.IsField get) {injection : Injection τ}
    (hafter : (fieldAfter? given declaration option (get (defaults?.getD injection.target))
      (get injection.target)).isSome = true) :
    (injection.injectOption given declaration defaults? option).error? = none := by
  rw [fieldAfter?, Option.isSome_map, ← OptionDeclaration.read?_of_isField hfield,
    ← OptionDeclaration.read?_of_isField hfield] at hafter
  obtain ⟨set, haccess, -⟩ := hfield
  obtain ⟨content?, hdecision⟩ := Option.isSome_iff_exists.1 hafter
  rw [injectOption_eq_injectHolding]
  exact (injectHolding_of_decision haccess hdecision).1

/-- Another field is as it was, and so is its default. -/
theorem get_injectOption_of_independent {option other : OptionDeclaration τ}
    (hindependent : option.Independent other) {get : τ → other.type.Carrier}
    (hfield : other.IsField get) (injection : Injection τ) :
    let reached := (injection.injectOption given declaration defaults? option).reached
    get reached.target = get injection.target ∧
      get (defaults?.getD reached.target) = get (defaults?.getD injection.target) := by
  have hkept : get (injection.injectOption given declaration defaults? option).reached.target =
      get injection.target :=
    get_injectOption_of_leaves (hindependent.leaves hfield) injection
  refine ⟨hkept, ?_⟩
  cases defaults? with
  | none => exact hkept
  | some defaults => rfl

/-- After a run that succeeds every field holds what its option makes of it. -/
theorem fieldAfter?_injectOptions {option : OptionDeclaration τ} {get : τ → option.type.Carrier}
    (hindependent : options.Pairwise OptionDeclaration.Independent) (hoption : option ∈ options)
    (hfield : option.IsField get) {injection : Injection τ}
    (hok : (injection.injectOptions given declaration defaults? options).error? = none) :
    fieldAfter? given declaration option (get (defaults?.getD injection.target))
        (get injection.target) =
      some (get (injection.injectOptions given declaration defaults? options).reached.target) := by
  induction options generalizing injection with
  | nil => cases hoption
  | cons first rest ih =>
      obtain ⟨hothers, hrest⟩ := List.pairwise_cons.1 hindependent
      have hhead := error?_of_injectOptions_cons hok
      rw [injectOptions_cons_of_ok rest hhead] at hok ⊢
      rcases List.mem_cons.1 hoption with rfl | hmem
      · have hleaves : ∀ other ∈ rest, other.Leaves get := fun other hother =>
          (hothers other hother).symm.leaves hfield
        rw [get_injectOptions_of_leaves hleaves]
        exact fieldAfter?_injectOption hfield hhead
      · obtain ⟨hheld, hdefault⟩ := get_injectOption_of_independent (hothers option hmem) hfield
          injection
        rw [← hheld, ← hdefault]
        exact ih hrest hmem hok

/-- A run succeeds if every field can take what it is offered before the run. -/
theorem ok_of_fields (hindependent : options.Pairwise OptionDeclaration.Independent)
    {injection : Injection τ}
    (hfields : ∀ option ∈ options, ∃ get, option.IsField get ∧
      (fieldAfter? given declaration option (get (defaults?.getD injection.target))
        (get injection.target)).isSome = true) :
    (injection.injectOptions given declaration defaults? options).error? = none := by
  induction options generalizing injection with
  | nil => rfl
  | cons first rest ih =>
      obtain ⟨hothers, hrest⟩ := List.pairwise_cons.1 hindependent
      obtain ⟨⟨get, hfield, hafter⟩, hmore⟩ := List.forall_mem_cons.1 hfields
      rw [injectOptions_cons_of_ok rest (ok_of_fieldAfter? hfield hafter)]
      apply ih hrest
      intro option hoption
      obtain ⟨read, hread, hreads⟩ := hmore option hoption
      obtain ⟨hheld, hdefault⟩ := get_injectOption_of_independent (hothers option hoption) hread
        injection
      refine ⟨read, hread, ?_⟩
      rw [hheld, hdefault]
      exact hreads

/-- A run over fields of their own succeeds if every one of them takes what it is offered. -/
theorem ok_iff_fields (hindependent : options.Pairwise OptionDeclaration.Independent)
    (hfields : ∀ option ∈ options, ∃ get, option.IsField get) {injection : Injection τ} :
    (injection.injectOptions given declaration defaults? options).error? = none ↔
      ∀ option ∈ options, ∀ get, option.IsField get →
        (fieldAfter? given declaration option (get (defaults?.getD injection.target))
          (get injection.target)).isSome = true := by
  constructor
  · intro hok option hoption get hfield
    rw [fieldAfter?_injectOptions hindependent hoption hfield hok]
    rfl
  · intro hafter
    apply ok_of_fields hindependent
    intro option hoption
    obtain ⟨get, hfield⟩ := hfields option hoption
    exact ⟨get, hfield, hafter option hoption get hfield⟩

end Run

/-! ## Injections -/

section Store

variable {store : Store} {given : Surroundings} {declaration : Declaration τ} {target : τ}
  {defaults? : Option τ} (hregistries : store.registries = given.registries)
  (hindependent : declaration.options.Pairwise OptionDeclaration.Independent)
include hregistries hindependent

theorem fieldAfter?_inject {option : OptionDeclaration τ} {get : τ → option.type.Carrier}
    (hoption : option ∈ declaration.options) (hfield : option.IsField get)
    (hok : (store.inject given.config declaration target defaults?).2.error? = none) :
    fieldAfter? given declaration option (get (defaults?.getD target)) (get target) =
      some (get (store.inject given.config declaration target defaults?).2.reached.target) := by
  unfold Store.inject injectAll at hok ⊢
  rw [hregistries] at hok ⊢
  exact (fieldAfter?_injectOptions hindependent hoption hfield hok :)

theorem inject_ok_iff (hfields : ∀ option ∈ declaration.options, ∃ get, option.IsField get) :
    (store.inject given.config declaration target defaults?).2.error? = none ↔
      ∀ option ∈ declaration.options, ∀ get, option.IsField get →
        (fieldAfter? given declaration option (get (defaults?.getD target))
          (get target)).isSome = true := by
  unfold Store.inject injectAll
  rw [hregistries]
  exact ok_iff_fields hindependent hfields

end Store

end Injection

end TypedOptions
