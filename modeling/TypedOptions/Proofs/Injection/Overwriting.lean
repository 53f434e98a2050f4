import TypedOptions.Proofs.Injection.Decisions
import TypedOptions.Proofs.Injection.Fields
import TypedOptions.Proofs.Value.Exactness

/-!
# Values that are held already

An option is not written if the object holds an equal value.  Where equal
values are the same nobody can tell this from writing it again.  Paths,
doubles and classes can be equal without being the same: then the object
keeps what it has held.
-/

namespace TypedOptions

variable {τ : Type}

/-- The option is a field: it holds what was written last, and writing what it holds does not
change the object. -/
def OptionDeclaration.IsLawful (option : OptionDeclaration τ) : Prop :=
  ∃ get set, option.access = .field get set ∧
    (∀ content target, get (set content target) = content) ∧
    ∀ target, set (get target) target = target

/-- A bound is put on classes only. -/
theorem OptionType.elementType_of_withBound {type : OptionType} {bound : String}
    {element : ElementType} (helement : (type.withBound bound).elementType = .element element)
    (hclass : ∀ bound?, element ≠ .classRef bound?) :
    type.elementType = .element element := by
  cases type with
  | element type =>
      cases type with
      | classRef bound? =>
          cases helement
          exact absurd rfl (hclass _)
      | _ => exact helement
  | collection kind items =>
      cases items with
      | collection kind items => exact helement
      | element type =>
          cases type with
          | classRef bound? =>
              cases helement
              exact absurd rfl (hclass _)
          | _ => exact helement

theorem OptionDeclaration.leaf_of_elementType {option : OptionDeclaration τ}
    {element : ElementType} (helement : option.optionType.elementType = .element element)
    (hclass : ∀ bound?, element ≠ .classRef bound?) :
    option.type.leaf = element := by
  apply FieldType.eq_leaf_of_elementType
  unfold optionType at helement
  cases hbound : option.bound? with
  | none =>
      rw [hbound] at helement
      exact helement
  | some bound =>
      rw [hbound] at helement
      exact OptionType.elementType_of_withBound helement hclass

/-- What skipping equal values makes of a field that held `former`, beside what writing them makes
of it: the same, or else it holds what it held, which only equals the value that is written. -/
def OptionDeclaration.KeepsEqual (option : OptionDeclaration τ)
    (former kept written : option.type.Carrier) : Prop :=
  kept = written ∨
    ¬option.type.IsExact ∧ kept = former ∧
      ∃ value, (option.type.toValue former).equals value = true ∧
        option.type.ofValue? value = some written

namespace Injection

theorem error?_of_injectOptions_cons {given : Surroundings} {declaration : Declaration τ}
    {defaults? : Option τ} {option : OptionDeclaration τ} {rest : List (OptionDeclaration τ)}
    {injection : Injection τ}
    (hok : (injection.injectOptions given declaration defaults? (option :: rest)).error? = none) :
    (injection.injectOption given declaration defaults? option).error? = none := by
  cases herror : (injection.injectOption given declaration defaults? option).error? with
  | none => rfl
  | some error =>
      rw [injectOptions_cons_of_error rest herror, herror] at hok
      cases hok

section Overwriting

variable (given : Surroundings) (declaration : Declaration τ) (defaults? : Option τ)

/-- Injects options in their order and writes every value, also one that the object holds. -/
def overwriteOptions : List (OptionDeclaration τ) → Injection τ → InjectionResult τ
  | [], injection => ⟨injection, none⟩
  | option :: rest, injection =>
      let result := injection.injectHolding given declaration defaults? option none
      match result.error? with
      | some _ => result
      | none => overwriteOptions rest result.reached

def overwriteAll (injection : Injection τ) : InjectionResult τ :=
  overwriteOptions given declaration defaults? declaration.options
    (injection.log [.injecting declaration.options.length declaration.scope])

variable {given declaration defaults?}

theorem overwriteOptions_cons_of_error {option : OptionDeclaration τ} {injection : Injection τ}
    {error : OptionError} (rest : List (OptionDeclaration τ))
    (herror : (injection.injectHolding given declaration defaults? option none).error? =
      some error) :
    overwriteOptions given declaration defaults? (option :: rest) injection =
      injection.injectHolding given declaration defaults? option none := by
  simp only [overwriteOptions, herror]

theorem overwriteOptions_cons_of_ok {option : OptionDeclaration τ} {injection : Injection τ}
    (rest : List (OptionDeclaration τ))
    (hok : (injection.injectHolding given declaration defaults? option none).error? = none) :
    overwriteOptions given declaration defaults? (option :: rest) injection =
      overwriteOptions given declaration defaults? rest
        (injection.injectHolding given declaration defaults? option none).reached := by
  simp only [overwriteOptions, hok]

theorem error?_of_overwriteOptions_cons {option : OptionDeclaration τ}
    {rest : List (OptionDeclaration τ)} {injection : Injection τ}
    (hok : (overwriteOptions given declaration defaults? (option :: rest) injection).error? =
      none) :
    (injection.injectHolding given declaration defaults? option none).error? = none := by
  cases herror : (injection.injectHolding given declaration defaults? option none).error? with
  | none => rfl
  | some error =>
      rw [overwriteOptions_cons_of_error rest herror, herror] at hok
      cases hok

end Overwriting

/-! ## One option -/

section Step

variable {given : Surroundings} {declaration : Declaration τ} {defaults? : Option τ}
  {option : OptionDeclaration τ} {get : τ → option.type.Carrier}
  {set : option.type.Carrier → τ → τ}

theorem exists_decision_of_holding (haccess : option.access = .field get set)
    {held? : Option Value} {injection : Injection τ}
    (hok : (injection.injectHolding given declaration defaults? option held?).error? = none) :
    ∃ content?,
      decision? given declaration option held? (option.read? (defaults?.getD injection.target)) =
        some content? ∧
      (injection.injectHolding given declaration defaults? option held?).reached.target =
        OptionDeclaration.fill set content? injection.target := by
  have hsettled := InjectionResult.settled?_eq_some_iff.2 ⟨hok, rfl, rfl⟩
  rw [settled?_injectHolding haccess] at hsettled
  obtain ⟨content?, hdecision, hreached⟩ := Option.map_eq_some_iff.1 hsettled
  exact ⟨content?, hdecision, (congrArg Prod.fst hreached).symm⟩

theorem exists_decision_of_ok (haccess : option.access = .field get set) {injection : Injection τ}
    (hok : (injection.injectOption given declaration defaults? option).error? = none) :
    ∃ content?,
      decision? given declaration option (some (option.type.toValue (get injection.target)))
        (option.read? (defaults?.getD injection.target)) = some content? ∧
      (injection.injectOption given declaration defaults? option).reached.target =
        OptionDeclaration.fill set content? injection.target := by
  rw [← OptionDeclaration.read?_of_access haccess injection.target]
  rw [injectOption_eq_injectHolding] at hok ⊢
  exact exists_decision_of_holding haccess hok

theorem injectHolding_of_decision (haccess : option.access = .field get set)
    {held? : Option Value} {injection : Injection τ} {content? : Option option.type.Carrier}
    (hdecision : decision? given declaration option held?
      (option.read? (defaults?.getD injection.target)) = some content?) :
    (injection.injectHolding given declaration defaults? option held?).error? = none ∧
      (injection.injectHolding given declaration defaults? option held?).reached.target =
        OptionDeclaration.fill set content? injection.target := by
  have hsettled :
      (injection.injectHolding given declaration defaults? option held?).settled? =
        some (OptionDeclaration.fill set content? injection.target,
          (given.config.finding declaration option).record injection.usage) := by
    rw [settled?_injectHolding haccess, hdecision]
    rfl
  obtain ⟨hok, htarget, -⟩ := InjectionResult.settled?_eq_some_iff.1 hsettled
  exact ⟨hok, htarget⟩

/-- Writing a value that the object holds is the only thing that overwriting adds. -/
theorem decision?_of_holding {held? default? : Option Value}
    {content? : Option option.type.Carrier}
    (hdecision : decision? given declaration option held? default? = some content?) :
    decision? given declaration option none default? = some content? ∨
      content? = none ∧ ∃ value, held?.any (·.equals value) = true ∧
        offered? given declaration option default? = some (some value) ∧
        decision? given declaration option none default? =
          (option.type.ofValue? value).map some := by
  unfold decision? at hdecision ⊢
  cases hoffered : offered? given declaration option default? with
  | none =>
      rw [hoffered] at hdecision
      cases hdecision
  | some value? =>
      rw [hoffered] at hdecision
      cases value? with
      | none => exact Or.inl hdecision
      | some value =>
          cases hequals : held?.any (·.equals value) with
          | false =>
              left
              simpa [hequals] using hdecision
          | true =>
              right
              simp only [hequals, if_true, Option.some_inj] at hdecision
              refine ⟨hdecision.symm, value, hequals, rfl, ?_⟩
              simp

end Step

/-! ## Exact types -/

section Exact

variable {given : Surroundings} {declaration : Declaration τ} {defaults? : Option τ}

/-- To write a value of an exact type again that the object holds leaves the object as it is. -/
theorem injectHolding_of_exact {option : OptionDeclaration τ} (hlawful : option.IsLawful)
    (hexact : option.type.IsExact) {injection other : Injection τ}
    (htarget : other.target = injection.target)
    (hok : (injection.injectOption given declaration defaults? option).error? = none) :
    (other.injectHolding given declaration defaults? option none).error? = none ∧
      (other.injectHolding given declaration defaults? option none).reached.target =
        (injection.injectOption given declaration defaults? option).reached.target := by
  obtain ⟨get, set, haccess, -, hset⟩ := hlawful
  obtain ⟨content?, hdecision, hreached⟩ := exists_decision_of_ok haccess hok
  rw [hreached, ← htarget]
  rw [← htarget] at hdecision
  rcases decision?_of_holding hdecision with hsame | ⟨rfl, value, hequals, -, hwritten⟩
  · exact injectHolding_of_decision haccess hsame
  · have hcontent : option.type.ofValue? value = some (get other.target) :=
      hexact.ofValue?_of_equals hequals
    rw [hcontent] at hwritten
    obtain ⟨hother, hwrites⟩ := injectHolding_of_decision haccess hwritten
    refine ⟨hother, ?_⟩
    rw [hwrites]
    exact hset other.target

theorem overwriteOptions_of_exact {options : List (OptionDeclaration τ)}
    (hlawful : ∀ option ∈ options, option.IsLawful)
    (hexact : ∀ option ∈ options, option.type.IsExact) {injection other : Injection τ}
    (htarget : other.target = injection.target)
    (hok : (injection.injectOptions given declaration defaults? options).error? = none) :
    (overwriteOptions given declaration defaults? options other).error? = none ∧
      (overwriteOptions given declaration defaults? options other).reached.target =
        (injection.injectOptions given declaration defaults? options).reached.target := by
  induction options generalizing injection other with
  | nil => exact ⟨rfl, htarget⟩
  | cons option rest ih =>
      obtain ⟨hoption, hlawful⟩ := List.forall_mem_cons.1 hlawful
      obtain ⟨hfirst, hexact⟩ := List.forall_mem_cons.1 hexact
      have hhead := error?_of_injectOptions_cons hok
      rw [injectOptions_cons_of_ok rest hhead] at hok ⊢
      obtain ⟨hother, hreached⟩ := injectHolding_of_exact hoption hfirst htarget hhead
      rw [overwriteOptions_cons_of_ok rest hother]
      exact ih hlawful hexact hreached hok

end Exact

/-! ## Fields of their own -/

section Independent

variable {given : Surroundings} {declaration : Declaration τ} {defaults? : Option τ}

theorem get_injectHolding_of_leaves {α : Type} {option : OptionDeclaration τ} {get : τ → α}
    (hleaves : option.Leaves get) (held? : Option Value) (injection : Injection τ) :
    get (injection.injectHolding given declaration defaults? option held?).reached.target =
      get injection.target := by
  unfold injectHolding
  cases option.check given.registries.sizeLimit (declaration.nameOf option) with
  | error error => rfl
  | ok expression? =>
      dsimp only
      split
      · rfl
      · rfl
      · unfold store
        split
        · rfl
        · exact OptionDeclaration.get_write_of_leaves hleaves ..

theorem get_overwriteOptions_of_leaves {α : Type} {options : List (OptionDeclaration τ)}
    {get : τ → α} (hleaves : ∀ option ∈ options, option.Leaves get) (injection : Injection τ) :
    get (overwriteOptions given declaration defaults? options injection).reached.target =
      get injection.target := by
  induction options generalizing injection with
  | nil => rfl
  | cons option rest ih =>
      obtain ⟨hoption, hrest⟩ := List.forall_mem_cons.1 hleaves
      have hfirst : get (injection.injectHolding given declaration defaults? option
          none).reached.target = get injection.target :=
        get_injectHolding_of_leaves hoption none injection
      cases herror : (injection.injectHolding given declaration defaults? option none).error? with
      | some error => rw [overwriteOptions_cons_of_error rest herror, hfirst]
      | none => rw [overwriteOptions_cons_of_ok rest herror, ih hrest, hfirst]

/-- The objects agree in the fields of the options. -/
def SameFields (options : List (OptionDeclaration τ)) (first second : τ) : Prop :=
  ∀ option ∈ options, ∀ get set, option.access = .field get set → get first = get second

theorem SameFields.read? {options : List (OptionDeclaration τ)} {first second : τ}
    (hsame : SameFields options first second) {option : OptionDeclaration τ}
    (hoption : option ∈ options) {get : τ → option.type.Carrier}
    {set : option.type.Carrier → τ → τ} (haccess : option.access = .field get set)
    (defaults? : Option τ) :
    option.read? (defaults?.getD first) = option.read? (defaults?.getD second) := by
  cases defaults? with
  | none =>
      rw [Option.getD_none, Option.getD_none, OptionDeclaration.read?_of_access haccess,
        OptionDeclaration.read?_of_access haccess, hsame option hoption get set haccess]
  | some defaults => rfl

/-- Whatever is written into another field, they still do. -/
theorem SameFields.fill {option : OptionDeclaration τ} {rest : List (OptionDeclaration τ)}
    {first second : τ} (hsame : SameFields (option :: rest) first second)
    (hindependent : ∀ other ∈ rest, option.Independent other) {get : τ → option.type.Carrier}
    {set : option.type.Carrier → τ → τ} (haccess : option.access = .field get set)
    (content? other? : Option option.type.Carrier) :
    SameFields rest (OptionDeclaration.fill set content? first)
      (OptionDeclaration.fill set other? second) := by
  intro other hother get' set' haccess'
  have happart := hindependent other hother
  rw [happart.get_fill haccess haccess', happart.get_fill haccess haccess']
  exact hsame other (List.mem_cons_of_mem _ hother) get' set' haccess'

/-- The two decisions on a field leave equal contents in it. -/
theorem keepsEqual_fill {option : OptionDeclaration τ} {get : τ → option.type.Carrier}
    {set : option.type.Carrier → τ → τ}
    (hget : ∀ content target, get (set content target) = content) {default? : Option Value}
    {content? other? : Option option.type.Carrier} {first second : τ}
    (hsame : get second = get first)
    (hdecision : decision? given declaration option (some (option.type.toValue (get first)))
      default? = some content?)
    (hother : decision? given declaration option none default? = some other?) :
    option.KeepsEqual (get first) (get (OptionDeclaration.fill set content? first))
      (get (OptionDeclaration.fill set other? second)) := by
  rcases decision?_of_holding hdecision with hagrees | ⟨rfl, value, hequals, -, hwritten⟩
  · left
    rw [hagrees, Option.some_inj] at hother
    subst hother
    cases content? with
    | none => exact hsame.symm
    | some content => rw [OptionDeclaration.fill, OptionDeclaration.fill, hget, hget]
  · rw [hwritten] at hother
    obtain ⟨written, hvalue, rfl⟩ := Option.map_eq_some_iff.1 hother
    rw [OptionDeclaration.fill, OptionDeclaration.fill, hget]
    by_cases hexact : option.type.IsExact
    · left
      have hheld : option.type.ofValue? value = some (get first) :=
        hexact.ofValue?_of_equals hequals
      exact Option.some_inj.1 (hheld.symm.trans hvalue)
    · exact Or.inr ⟨hexact, rfl, value, hequals, hvalue⟩

/-- Fields of their own end with equal contents, whether equal values are written or not. -/
theorem keepsEqual_overwriteOptions {options : List (OptionDeclaration τ)}
    (hlawful : ∀ option ∈ options, option.IsLawful)
    (hindependent : options.Pairwise OptionDeclaration.Independent) {injection other : Injection τ}
    (hsame : SameFields options other.target injection.target)
    (hok : (injection.injectOptions given declaration defaults? options).error? = none)
    (hother : (overwriteOptions given declaration defaults? options other).error? = none) :
    ∀ option ∈ options, ∀ get set, option.access = .field get set →
      option.KeepsEqual (get injection.target)
        (get (injection.injectOptions given declaration defaults? options).reached.target)
        (get (overwriteOptions given declaration defaults? options other).reached.target) := by
  induction options generalizing injection other with
  | nil => simp
  | cons option rest ih =>
      obtain ⟨hoption, hrestLawful⟩ := List.forall_mem_cons.1 hlawful
      obtain ⟨hapart, hrestApart⟩ := List.pairwise_cons.1 hindependent
      obtain ⟨get, set, haccess, hget, -⟩ := hoption
      have hhead := error?_of_injectOptions_cons hok
      have hotherHead := error?_of_overwriteOptions_cons hother
      rw [injectOptions_cons_of_ok rest hhead] at hok ⊢
      rw [overwriteOptions_cons_of_ok rest hotherHead] at hother ⊢
      obtain ⟨content?, hdecision, hreached⟩ := exists_decision_of_ok haccess hhead
      obtain ⟨other?, hwritten, hotherReached⟩ := exists_decision_of_holding haccess hotherHead
      rw [hsame.read? List.mem_cons_self haccess] at hwritten
      have hnext : SameFields rest
          (other.injectHolding given declaration defaults? option none).reached.target
          (injection.injectOption given declaration defaults? option).reached.target := by
        rw [hreached, hotherReached]
        exact hsame.fill hapart haccess other? content?
      intro chosen hchosen
      rcases List.mem_cons.1 hchosen with rfl | hrest
      · -- What is decided on the first option is not touched by the others.
        intro get' set' haccess'
        rw [haccess] at haccess'
        cases haccess'
        have hleaves : ∀ later ∈ rest, later.Leaves get := fun later hlater =>
          (hapart later hlater).snd_leaves get set haccess
        rw [get_injectOptions_of_leaves hleaves, get_overwriteOptions_of_leaves hleaves, hreached,
          hotherReached]
        exact keepsEqual_fill hget (hsame chosen List.mem_cons_self get set haccess) hdecision
          hwritten
      · intro get' set' haccess'
        have hformer : get' (injection.injectOption given declaration defaults?
            option).reached.target = get' injection.target := by
          rw [hreached]
          exact (hapart chosen hrest).get_fill haccess haccess' content? injection.target
        rw [← hformer]
        exact ih hrestLawful hrestApart hnext hok hother chosen hrest get' set' haccess'

end Independent

/-! ## Values that can be written -/

section Writable

variable {given : Surroundings} {declaration : Declaration τ} {defaults? : Option τ}

/-- A value that equals the content of the field can be written into it: either no converters but
the built-in ones are in use, or the field holds no factories. -/
def Writable (given : Surroundings) (option : OptionDeclaration τ) : Prop :=
  given.BuiltIn ∨ ∀ interface, option.type.leaf ≠ .factory interface

theorem accepts_of_offered {option : OptionDeclaration τ} (hbuiltIn : given.BuiltIn)
    (hrational : option.optionType.elementType ≠ .element .rational) {target : τ} {value : Value}
    (hoffered : offered? given declaration option (option.read? (defaults?.getD target)) =
      some (some value)) :
    option.type.Accepts value := by
  unfold offered? at hoffered
  cases hcheck : option.check given.registries.sizeLimit (declaration.nameOf option) with
  | error error => simp [hcheck] at hoffered
  | ok expression? =>
      have hanswers := answers_conversion hbuiltIn
        ⟨OptionDeclaration.fault?_of_check hcheck, hrational⟩ defaults? expression?
        (start target .empty)
      simp only [hcheck] at hoffered
      have houtcome : ((start target .empty).conversion given declaration defaults? option
          expression?).outcome = .ok (some value) := toOption_eq_some_iff.1 hoffered
      rw [houtcome] at hanswers
      cases hanswers with
      | ok haccepts => exact haccepts value rfl

theorem accepts_of_writable {option : OptionDeclaration τ} (hwritable : Writable given option)
    {content : option.type.Carrier} {target : τ} {value : Value}
    (hequals : (option.type.toValue content).equals value = true)
    (hoffered : offered? given declaration option (option.read? (defaults?.getD target)) =
      some (some value)) :
    option.type.Accepts value := by
  rcases hwritable with hbuiltIn | hfactory
  · by_cases hrational : option.optionType.elementType = .element .rational
    · have hleaf := option.leaf_of_elementType hrational nofun
      exact FieldType.accepts_of_equals (fun interface => by simp [hleaf]) content hequals
    · exact accepts_of_offered hbuiltIn hrational hoffered
  · exact FieldType.accepts_of_equals hfactory content hequals

theorem exists_decision_of_writable {option : OptionDeclaration τ}
    (hwritable : Writable given option) {content : option.type.Carrier}
    {content? : Option option.type.Carrier} {target : τ}
    (hdecision : decision? given declaration option (some (option.type.toValue content))
      (option.read? (defaults?.getD target)) = some content?) :
    ∃ other?, decision? given declaration option none (option.read? (defaults?.getD target)) =
      some other? := by
  rcases decision?_of_holding hdecision with hsame | ⟨-, value, hequals, hoffered, hwritten⟩
  · exact ⟨content?, hsame⟩
  · have haccepts := accepts_of_writable hwritable hequals hoffered
    obtain ⟨written, hvalue⟩ := Option.isSome_iff_exists.1 haccepts
    have hvalue' : option.type.ofValue? value = some written := hvalue
    exact ⟨some written, by rw [hwritten, hvalue', Option.map_some]⟩

theorem overwriteOptions_of_writable {options : List (OptionDeclaration τ)}
    (hlawful : ∀ option ∈ options, option.IsLawful)
    (hindependent : options.Pairwise OptionDeclaration.Independent)
    (hwritable : ∀ option ∈ options, Writable given option) {injection other : Injection τ}
    (hsame : SameFields options other.target injection.target)
    (hok : (injection.injectOptions given declaration defaults? options).error? = none) :
    (overwriteOptions given declaration defaults? options other).error? = none := by
  induction options generalizing injection other with
  | nil => rfl
  | cons option rest ih =>
      obtain ⟨hoption, hrestLawful⟩ := List.forall_mem_cons.1 hlawful
      obtain ⟨hapart, hrestApart⟩ := List.pairwise_cons.1 hindependent
      obtain ⟨hfirst, hrestWritable⟩ := List.forall_mem_cons.1 hwritable
      obtain ⟨get, set, haccess, -, -⟩ := hoption
      have hhead := error?_of_injectOptions_cons hok
      rw [injectOptions_cons_of_ok rest hhead] at hok
      obtain ⟨content?, hdecision, hreached⟩ := exists_decision_of_ok haccess hhead
      obtain ⟨other?, hwritten⟩ := exists_decision_of_writable hfirst hdecision
      rw [← hsame.read? List.mem_cons_self haccess] at hwritten
      obtain ⟨hother, hotherReached⟩ := injectHolding_of_decision haccess hwritten
      rw [overwriteOptions_cons_of_ok rest hother]
      refine ih hrestLawful hrestApart hrestWritable ?_ hok
      rw [hreached, hotherReached]
      exact hsame.fill hapart haccess other? content?

end Writable

/-- An injection that succeeds leaves the same object as one that also writes what is held already,
if equal values are the same.  Otherwise, with fields of their own, the other one succeeds as well
unless a field is offered a class without a factory that is called like the one it holds, and the
two differ in no more than fields that keep what they held, which equals what is written. -/
theorem skipping_equal_values (given : Surroundings) (declaration : Declaration τ)
    (defaults? : Option τ) (injection : Injection τ)
    (hlawful : ∀ option ∈ declaration.options, option.IsLawful)
    (hok : (injection.injectAll given declaration defaults?).error? = none) :
    let skipping := (injection.injectAll given declaration defaults?).reached.target
    let overwriting := injection.overwriteAll given declaration defaults?
    ((∀ option ∈ declaration.options, option.type.IsExact) →
      overwriting.error? = none ∧ overwriting.reached.target = skipping) ∧
    (declaration.options.Pairwise OptionDeclaration.Independent →
      ((∀ option ∈ declaration.options, Writable given option) → overwriting.error? = none) ∧
      (overwriting.error? = none →
        ∀ option ∈ declaration.options, ∀ get set, option.access = .field get set →
          option.KeepsEqual (get injection.target) (get skipping)
            (get overwriting.reached.target))) := by
  intro skipping overwriting
  let start := injection.log [.injecting declaration.options.length declaration.scope]
  have hrun : (start.injectOptions given declaration defaults? declaration.options).error? =
      none := hok
  have hsame : SameFields declaration.options start.target start.target :=
    fun _ _ _ _ _ => rfl
  refine ⟨fun hexact => ?_, fun hindependent => ⟨fun hwritable => ?_, fun hother => ?_⟩⟩
  · exact overwriteOptions_of_exact hlawful hexact rfl hrun
  · exact overwriteOptions_of_writable hlawful hindependent hwritable hsame hrun
  · exact keepsEqual_overwriteOptions hlawful hindependent hsame hrun hother

end Injection

/-! ## A sample -/

namespace OverwritingSample

def path : OptionDeclaration (Path × String) :=
  { OptionDeclaration.ofField "p" (.element .path) Prod.fst
      (fun value (pair : Path × String) => (value, pair.2)) with
    annotations := [.file .optionalInput] }

def plain : OptionDeclaration (Path × String) :=
  .ofField "s" (.element .string) Prod.snd fun value pair => (pair.1, value)

def declaration : Declaration (Path × String) :=
  ⟨"", none, "", [path, plain]⟩

/-- The path is set to what the object holds in another spelling. -/
def given : Surroundings where
  config :=
    { Configuration.empty "r" false 0 (.memory .empty) with
      settings := .ofSettings [("p", ⟨"/x/y", .manual⟩), ("s", ⟨"b", .manual⟩)] }
  registries := .empty fun _ => true

def injection : Injection (Path × String) :=
  .start (⟨"/x//y"⟩, "a") .empty

theorem isLawful_of_mem {option : OptionDeclaration (Path × String)}
    (hoption : option ∈ declaration.options) : option.IsLawful := by
  simp only [declaration, List.mem_cons, List.not_mem_nil, or_false] at hoption
  rcases hoption with rfl | rfl
  · exact ⟨Prod.fst, _, rfl, fun _ _ => rfl, fun _ => rfl⟩
  · exact ⟨Prod.snd, _, rfl, fun _ _ => rfl, fun _ => rfl⟩

theorem independent_path_plain : path.Independent plain :=
  OptionDeclaration.independent_of_access rfl rfl (fun _ _ => rfl) (fun _ _ => rfl)
    fun _ _ _ => rfl

/-- The path that is held is not replaced by the other spelling. -/
theorem spelling_kept :
    given.BuiltIn ∧
      (∀ option ∈ declaration.options, option.IsLawful) ∧
      (injection.injectAll given declaration none).error? = none ∧
      (injection.overwriteAll given declaration none).error? = none ∧
      (injection.injectAll given declaration none).reached.target = (⟨"/x//y"⟩, "b") ∧
      (injection.overwriteAll given declaration none).reached.target = (⟨"/x/y"⟩, "b") := by
  refine ⟨⟨rfl, rfl⟩, fun _ => isLawful_of_mem, ?_⟩
  decide +kernel

theorem skipping_equal_values_sample :
    (∀ option ∈ declaration.options, option.IsLawful) ∧
      (injection.injectAll given declaration none).error? = none ∧
      declaration.options.Pairwise OptionDeclaration.Independent ∧
      (injection.overwriteAll given declaration none).error? = none ∧
      path.KeepsEqual ⟨"/x//y"⟩ ⟨"/x//y"⟩ ⟨"/x/y"⟩ := by
  have hlawful : ∀ option ∈ declaration.options, option.IsLawful := fun _ => isLawful_of_mem
  have hok : (injection.injectAll given declaration none).error? = none := by
    decide +kernel
  have hindependent : declaration.options.Pairwise OptionDeclaration.Independent :=
    List.pairwise_pair.2 independent_path_plain
  have hwritable : ∀ option ∈ declaration.options, Injection.Writable given option :=
    fun _ _ => Or.inl ⟨rfl, rfl⟩
  have hskipping : (injection.injectAll given declaration none).reached.target.1 =
      ⟨"/x//y"⟩ := by
    decide +kernel
  have hoverwriting : (injection.overwriteAll given declaration none).reached.target.1 =
      ⟨"/x/y"⟩ := by
    decide +kernel
  obtain ⟨-, happart⟩ :=
    Injection.skipping_equal_values given declaration none injection hlawful hok
  obtain ⟨hsucceeds, hkeeps⟩ := happart hindependent
  have hpath := hkeeps (hsucceeds hwritable) path List.mem_cons_self Prod.fst _ rfl
  rw [hskipping, hoverwriting] at hpath
  exact ⟨hlawful, hok, hindependent, hsucceeds hwritable, hpath⟩

end OverwritingSample

end TypedOptions
