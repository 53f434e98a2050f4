import TypedOptions.Proofs.Injection.SecureMode

/-!
# What the injection of a field decides

What an option is offered does not depend on the object, apart from its
default.  Whether it is written depends on the value that it holds.  So the
injection of a field comes to a decision from what this field alone tells:
it fails, it writes nothing, or it writes a content.
-/

namespace TypedOptions

variable {τ : Type}

/-- The object and the record of usage that a successful injection leaves. -/
def InjectionResult.settled? (result : InjectionResult τ) : Option (τ × Usage) :=
  match result.error? with
  | some _ => none
  | none => some (result.reached.target, result.reached.usage)

theorem InjectionResult.error?_eq_none_iff {result : InjectionResult τ} :
    result.error? = none ↔ result.settled?.isSome = true := by
  unfold settled?
  cases result.error? <;> simp

theorem InjectionResult.settled?_eq_some_iff {result : InjectionResult τ} {target : τ}
    {usage : Usage} :
    result.settled? = some (target, usage) ↔
      result.error? = none ∧ result.reached.target = target ∧ result.reached.usage = usage := by
  unfold settled?
  cases result.error? <;> simp

/-- Writes a content if there is one. -/
def OptionDeclaration.fill {α : Type} (set : α → τ → τ) (content? : Option α) (target : τ) : τ :=
  match content? with
  | some content => set content target
  | none => target

namespace Injection

section Decision

variable (given : Surroundings) (declaration : Declaration τ) (defaults? : Option τ)
  (option : OptionDeclaration τ)

/-- Injects one option that is taken to hold `held?`: a value that equals this is not written. -/
def injectHolding (held? : Option Value) (injection : Injection τ) : InjectionResult τ :=
  match option.check given.registries.sizeLimit (declaration.nameOf option) with
  | .error error => ⟨injection, some error⟩
  | .ok expression? =>
      match (injection.conversion given declaration defaults? option expression?).outcome with
      | .error error =>
          ⟨injection.afterConversion given declaration defaults? option expression?, some error⟩
      | .ok none =>
          ⟨injection.afterConversion given declaration defaults? option expression?, none⟩
      | .ok (some value) =>
          (injection.afterConversion given declaration defaults? option expression?).store option
            (declaration.nameOf option) value held?

/-- What the setting that is found for an option, or else its default, amounts to: a value or
nothing to be written.  There is none if the option fails before anything is written. -/
def offered? (default? : Option Value) : Option (Option Value) :=
  match option.check given.registries.sizeLimit (declaration.nameOf option) with
  | .error _ => none
  | .ok expression? =>
      (given.value? option (declaration.nameOf option) expression?
        (given.config.finding declaration option).chosen? default?).outcome.toOption

/-- The content that is written into a field that holds `held?`, if any.  There is no decision if
the option fails. -/
def decision? (held? default? : Option Value) : Option (Option option.type.Carrier) :=
  match offered? given declaration option default? with
  | none => none
  | some none => some none
  | some (some value) =>
      if held?.any (·.equals value) then some none
      else (option.type.ofValue? value).map some

theorem injectOption_eq_injectHolding (injection : Injection τ) :
    injection.injectOption given declaration defaults? option =
      injection.injectHolding given declaration defaults? option
        (option.read? injection.target) := by
  unfold injectHolding
  cases hcheck : option.check given.registries.sizeLimit (declaration.nameOf option) with
  | error error => exact injectOption_of_check_eq_error _ _ _ _ _ hcheck
  | ok expression? => exact injectOption_of_check_eq_ok _ _ _ _ _ hcheck

variable {given declaration defaults? option}

theorem settled?_store {get : τ → option.type.Carrier} {set : option.type.Carrier → τ → τ}
    (haccess : option.access = .field get set) (name : String) (value : Value)
    (held? : Option Value) (injection : Injection τ) :
    (injection.store option name value held?).settled? =
      if held?.any (·.equals value) then some (injection.target, injection.usage)
      else (option.type.ofValue? value).map fun content =>
        (set content injection.target, injection.usage) := by
  unfold store
  split
  · rfl
  · unfold OptionDeclaration.write
    rw [haccess]
    cases option.type.ofValue? value <;> rfl

/-- An injection that succeeds has written what was decided and has recorded what was found. -/
theorem settled?_injectHolding {get : τ → option.type.Carrier}
    {set : option.type.Carrier → τ → τ} (haccess : option.access = .field get set)
    (held? : Option Value) (injection : Injection τ) :
    (injection.injectHolding given declaration defaults? option held?).settled? =
      (decision? given declaration option held?
        (option.read? (defaults?.getD injection.target))).map fun content? =>
          (OptionDeclaration.fill set content? injection.target,
            (given.config.finding declaration option).record injection.usage) := by
  unfold injectHolding decision? offered?
  cases option.check given.registries.sizeLimit (declaration.nameOf option) with
  | error error => rfl
  | ok expression? =>
      dsimp only
      unfold conversion
      generalize (given.value? option (declaration.nameOf option) expression?
        (given.config.finding declaration option).chosen?
        (option.read? (defaults?.getD injection.target))).outcome = outcome
      cases outcome with
      | error error => rfl
      | ok value? =>
          cases value? with
          | none => rfl
          | some value =>
              simp only [Except.toOption, settled?_store haccess]
              split
              · rfl
              · rw [Option.map_map]
                rfl

theorem settled?_injectOption {get : τ → option.type.Carrier}
    {set : option.type.Carrier → τ → τ} (haccess : option.access = .field get set)
    (injection : Injection τ) :
    (injection.injectOption given declaration defaults? option).settled? =
      (decision? given declaration option (option.read? injection.target)
        (option.read? (defaults?.getD injection.target))).map fun content? =>
          (OptionDeclaration.fill set content? injection.target,
            (given.config.finding declaration option).record injection.usage) := by
  rw [injectOption_eq_injectHolding, settled?_injectHolding haccess]

end Decision

end Injection

/-! ## Fields of their own -/

namespace OptionDeclaration

/-- The fields are different ones: neither option writes what the other one reads, and they can be
written in any order. -/
structure Independent (first second : OptionDeclaration τ) : Prop where
  fst_leaves : ∀ get set, second.access = .field get set → first.Leaves get
  snd_leaves : ∀ get set, first.access = .field get set → second.Leaves get
  comm : ∀ get set get' set', first.access = .field get set → second.access = .field get' set' →
    ∀ content content' target,
      set content (set' content' target) = set' content' (set content target)

variable {first second : OptionDeclaration τ}

theorem Independent.symm (hindependent : first.Independent second) : second.Independent first where
  fst_leaves := hindependent.snd_leaves
  snd_leaves := hindependent.fst_leaves
  comm get set get' set' hsecond hfirst content content' target :=
    (hindependent.comm get' set' get set hfirst hsecond content' content target).symm

theorem independent_of_access {get : τ → first.type.Carrier} {set : first.type.Carrier → τ → τ}
    (haccess : first.access = .field get set) {get' : τ → second.type.Carrier}
    {set' : second.type.Carrier → τ → τ} (haccess' : second.access = .field get' set')
    (hget : ∀ content target, get (set' content target) = get target)
    (hget' : ∀ content target, get' (set content target) = get' target)
    (hcomm : ∀ content content' target,
      set content (set' content' target) = set' content' (set content target)) :
    first.Independent second where
  fst_leaves other _ hother := by
    rw [haccess'] at hother
    cases hother
    unfold Leaves
    rw [haccess]
    exact hget'
  snd_leaves other _ hother := by
    rw [haccess] at hother
    cases hother
    unfold Leaves
    rw [haccess']
    exact hget
  comm other _ other' _ hother hother' := by
    rw [haccess] at hother
    rw [haccess'] at hother'
    cases hother
    cases hother'
    exact hcomm

theorem exists_field (hfield : first.isSetter = false) :
    ∃ get set, first.access = .field get set := by
  unfold isSetter at hfield
  cases haccess : first.access with
  | field get set => exact ⟨get, set, rfl⟩
  | setter call =>
      rw [haccess] at hfield
      cases hfield

theorem read?_of_access {get : τ → first.type.Carrier} {set : first.type.Carrier → τ → τ}
    (haccess : first.access = .field get set) (target : τ) :
    first.read? target = some (first.type.toValue (get target)) := by
  simp only [read?, haccess]

/-- A field reads the same after another one has been written or left alone. -/
theorem Independent.get_fill (hindependent : first.Independent second)
    {get : τ → first.type.Carrier} {set : first.type.Carrier → τ → τ}
    (haccess : first.access = .field get set) {get' : τ → second.type.Carrier}
    {set' : second.type.Carrier → τ → τ} (haccess' : second.access = .field get' set')
    (content? : Option first.type.Carrier) (target : τ) :
    get' (fill set content? target) = get' target := by
  cases content? with
  | none => rfl
  | some content =>
      have hleaves := hindependent.fst_leaves get' set' haccess'
      unfold Leaves at hleaves
      rw [haccess] at hleaves
      exact hleaves content target

end OptionDeclaration

end TypedOptions
