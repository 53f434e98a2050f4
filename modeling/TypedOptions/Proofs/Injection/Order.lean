import TypedOptions.Proofs.Injection.Decisions
import TypedOptions.Proofs.Usage.Asking

/-!
# The order of options

Fields of their own can be injected in any order.  What one of them is given
does not depend on the others, although they share the record of usage and
may be looked up under the same names: keys are taken out of this record and
names are put into it in any order.
-/

namespace TypedOptions

variable {τ : Type}

/-! ## Records of usage -/

theorem Usage.mem_deprecated_markAllDeprecated {usage : Usage} {names : List String}
    {name : String} :
    name ∈ (usage.markAllDeprecated names).deprecated ↔
      name ∈ names ∨ name ∈ usage.deprecated := by
  rw [deprecated_markAllDeprecated]
  generalize usage.deprecated = deprecated
  induction names generalizing deprecated with
  | nil => simp
  | cons first rest ih =>
      rw [List.foldl_cons, ih, Std.ExtTreeSet.mem_insert, Std.compare_eq_iff_eq, List.mem_cons,
        eq_comm, or_left_comm, or_assoc]

namespace Finding

theorem mem_unused_record {finding : Finding} {usage : Usage} {key : String} :
    key ∈ (finding.record usage).unused ↔ key ∉ finding.probed ∧ key ∈ usage.unused := by
  rw [record, Usage.unused_markAllDeprecated, Usage.mem_unused_markAllUsed]

theorem mem_deprecated_record {finding : Finding} {usage : Usage} {name : String} :
    name ∈ (finding.record usage).deprecated ↔
      name ∈ finding.deprecated ∨ name ∈ usage.deprecated := by
  rw [record, Usage.mem_deprecated_markAllDeprecated, Usage.deprecated_markAllUsed]

theorem record_comm (first second : Finding) (usage : Usage) :
    second.record (first.record usage) = first.record (second.record usage) := by
  have hunused : (second.record (first.record usage)).unused =
      (first.record (second.record usage)).unused := by
    apply Std.ExtTreeSet.ext_mem
    intro key
    simp only [mem_unused_record]
    exact and_left_comm
  have hdeprecated : (second.record (first.record usage)).deprecated =
      (first.record (second.record usage)).deprecated := by
    apply Std.ExtTreeSet.ext_mem
    intro name
    simp only [mem_deprecated_record]
    exact or_left_comm
  generalize second.record (first.record usage) = left at hunused hdeprecated ⊢
  generalize first.record (second.record usage) = right at hunused hdeprecated ⊢
  cases left
  cases right
  cases hunused
  cases hdeprecated
  rfl

end Finding

/-! ## Two options -/

namespace OptionDeclaration

theorem Independent.read?_fill {first second : OptionDeclaration τ}
    (hindependent : first.Independent second) (hfield : second.isSetter = false)
    {get : τ → first.type.Carrier} {set : first.type.Carrier → τ → τ}
    (haccess : first.access = .field get set) (content? : Option first.type.Carrier) (target : τ) :
    second.read? (fill set content? target) = second.read? target := by
  obtain ⟨get', set', haccess'⟩ := exists_field hfield
  rw [read?_of_access haccess', read?_of_access haccess',
    hindependent.get_fill haccess haccess' content? target]

/-- So the default of an option is the same, whether it is taken from the object or not. -/
theorem Independent.read?_getD_fill {first second : OptionDeclaration τ}
    (hindependent : first.Independent second) (hfield : second.isSetter = false)
    {get : τ → first.type.Carrier} {set : first.type.Carrier → τ → τ}
    (haccess : first.access = .field get set) (content? : Option first.type.Carrier)
    (defaults? : Option τ) (target : τ) :
    second.read? (defaults?.getD (fill set content? target)) =
      second.read? (defaults?.getD target) := by
  cases defaults? with
  | none => exact hindependent.read?_fill hfield haccess content? target
  | some defaults => rfl

theorem Independent.fill_comm {first second : OptionDeclaration τ}
    (hindependent : first.Independent second) {get : τ → first.type.Carrier}
    {set : first.type.Carrier → τ → τ} (haccess : first.access = .field get set)
    {get' : τ → second.type.Carrier} {set' : second.type.Carrier → τ → τ}
    (haccess' : second.access = .field get' set') (content? : Option first.type.Carrier)
    (other? : Option second.type.Carrier) (target : τ) :
    fill set' other? (fill set content? target) = fill set content? (fill set' other? target) := by
  cases content? with
  | none => rfl
  | some content =>
      cases other? with
      | none => rfl
      | some other => exact (hindependent.comm _ _ _ _ haccess haccess' content other target).symm

end OptionDeclaration

namespace Injection

section Order

variable (given : Surroundings) (declaration : Declaration τ) (defaults? : Option τ)

/-- Injects one option into an object with a record of usage. -/
def settleOption (option : OptionDeclaration τ) (state : τ × Usage) : Option (τ × Usage) :=
  ((start state.1 state.2).injectOption given declaration defaults? option).settled?

def settleOptions (options : List (OptionDeclaration τ)) (state : τ × Usage) :
    Option (τ × Usage) :=
  options.foldlM (fun state option => settleOption given declaration defaults? option state) state

variable {given declaration defaults?}

theorem settleOption_of_access {option : OptionDeclaration τ} {get : τ → option.type.Carrier}
    {set : option.type.Carrier → τ → τ} (haccess : option.access = .field get set)
    (target : τ) (usage : Usage) :
    settleOption given declaration defaults? option (target, usage) =
      (decision? given declaration option (option.read? target)
        (option.read? (defaults?.getD target))).map fun content? =>
          (OptionDeclaration.fill set content? target,
            (given.config.finding declaration option).record usage) :=
  settled?_injectOption haccess (start target usage)

/-- The injections of fields of their own commute, whatever names they are looked up under. -/
theorem settleOption_comm {first second : OptionDeclaration τ}
    (hindependent : first.Independent second) (hfirst : first.isSetter = false)
    (hsecond : second.isSetter = false) (state : τ × Usage) :
    (settleOption given declaration defaults? first state).bind
        (settleOption given declaration defaults? second) =
      (settleOption given declaration defaults? second state).bind
        (settleOption given declaration defaults? first) := by
  obtain ⟨target, usage⟩ := state
  obtain ⟨get, set, haccess⟩ := OptionDeclaration.exists_field hfirst
  obtain ⟨get', set', haccess'⟩ := OptionDeclaration.exists_field hsecond
  -- Each of the two decides the same before and after the other one.
  have hread := hindependent.read?_fill hsecond haccess
  have hdefault := hindependent.read?_getD_fill hsecond haccess
  have hread' := hindependent.symm.read?_fill hfirst haccess'
  have hdefault' := hindependent.symm.read?_getD_fill hfirst haccess'
  rw [settleOption_of_access haccess, settleOption_of_access haccess']
  simp only [Option.bind_map, Function.comp_def, settleOption_of_access haccess,
    settleOption_of_access haccess', hread, hdefault, hread', hdefault']
  generalize decision? given declaration first _ _ = content?
  generalize decision? given declaration second _ _ = other?
  cases content? with
  | none => cases other? <;> rfl
  | some content? =>
      cases other? with
      | none => rfl
      | some other? =>
          simp only [Option.bind_some, Option.map_some, hindependent.fill_comm haccess haccess',
            Finding.record_comm]

theorem settleOptions_cons (option : OptionDeclaration τ) (rest : List (OptionDeclaration τ))
    (state : τ × Usage) :
    settleOptions given declaration defaults? (option :: rest) state =
      (settleOption given declaration defaults? option state).bind
        (settleOptions given declaration defaults? rest) :=
  List.foldlM_cons

/-- An injection comes to what its options come to one after the other. -/
theorem settled?_injectOptions {options : List (OptionDeclaration τ)}
    (hfields : ∀ option ∈ options, option.isSetter = false) (injection : Injection τ) :
    (injection.injectOptions given declaration defaults? options).settled? =
      settleOptions given declaration defaults? options (injection.target, injection.usage) := by
  induction options generalizing injection with
  | nil => rfl
  | cons option rest ih =>
      obtain ⟨hfield, hrest⟩ := List.forall_mem_cons.1 hfields
      obtain ⟨get, set, haccess⟩ := OptionDeclaration.exists_field hfield
      rw [settleOptions_cons, settleOption_of_access haccess, ← settled?_injectOption haccess]
      cases herror : (injection.injectOption given declaration defaults? option).error? with
      | some error =>
          rw [injectOptions_cons_of_error rest herror, InjectionResult.settled?, herror]
          rfl
      | none =>
          rw [injectOptions_cons_of_ok rest herror, ih hrest, InjectionResult.settled?, herror]
          rfl

/-- Fields of their own come to the same in any order. -/
theorem settleOptions_perm {options others : List (OptionDeclaration τ)}
    (hperm : options.Perm others) (hfields : ∀ option ∈ options, option.isSetter = false)
    (hindependent : options.Pairwise OptionDeclaration.Independent) (state : τ × Usage) :
    settleOptions given declaration defaults? options state =
      settleOptions given declaration defaults? others state := by
  induction hperm generalizing state with
  | nil => rfl
  | cons option hperm ih =>
      obtain ⟨-, hrest⟩ := List.forall_mem_cons.1 hfields
      rw [settleOptions_cons, settleOptions_cons]
      congr 1
      funext next
      exact ih hrest hindependent.of_cons next
  | swap first second rest =>
      have hsecond : second.isSetter = false := hfields second (by simp)
      have hfirst : first.isSetter = false := hfields first (by simp)
      have hpair : second.Independent first := (List.pairwise_cons.1 hindependent).1 first (by simp)
      calc settleOptions given declaration defaults? (second :: first :: rest) state
          = ((settleOption given declaration defaults? second state).bind
              (settleOption given declaration defaults? first)).bind
              (settleOptions given declaration defaults? rest) := by
            rw [settleOptions_cons, Option.bind_assoc]
            rfl
        _ = ((settleOption given declaration defaults? first state).bind
              (settleOption given declaration defaults? second)).bind
              (settleOptions given declaration defaults? rest) := by
            rw [settleOption_comm hpair hsecond hfirst]
        _ = settleOptions given declaration defaults? (first :: second :: rest) state := by
            rw [settleOptions_cons, Option.bind_assoc]
            rfl
  | trans hleft hright ihLeft ihRight =>
      have hmiddle := hindependent.perm hleft OptionDeclaration.Independent.symm
      rw [ihLeft hfields hindependent]
      exact ihRight (fun option hoption => hfields option (hleft.mem_iff.2 hoption)) hmiddle state

end Order

/-- Of a declaration an option needs only the scopes. -/
theorem settleOptions_congr {first second : Declaration τ} (given : Surroundings)
    (defaults? : Option τ) (hscope : first.scope = second.scope)
    (hformer : first.deprecatedScope? = second.deprecatedScope?)
    (options : List (OptionDeclaration τ)) (state : τ × Usage) :
    settleOptions given first defaults? options state =
      settleOptions given second defaults? options state := by
  obtain ⟨scope, former?, description, declared⟩ := first
  cases hscope
  cases hformer
  rfl

end Injection

/-- The injection of fields of their own does not depend on the order in which they are declared:
it succeeds in one order if it does in the other, and then the object is the same, and so is every
record of usage, although the options may be looked up under the same names. -/
theorem injection_order_irrelevant (store : Store) (config : Configuration)
    (first second : Declaration τ) (target : τ) (defaults? : Option τ)
    (hscope : first.scope = second.scope)
    (hformer : first.deprecatedScope? = second.deprecatedScope?)
    (hperm : first.options.Perm second.options)
    (hfields : ∀ option ∈ first.options, option.isSetter = false)
    (hindependent : first.options.Pairwise OptionDeclaration.Independent) :
    let ofFirst := store.inject config first target defaults?
    let ofSecond := store.inject config second target defaults?
    (ofFirst.2.error? = none ↔ ofSecond.2.error? = none) ∧
      (ofFirst.2.error? = none →
        ofFirst.2.reached.target = ofSecond.2.reached.target ∧
          ∀ id, (ofFirst.1.usage id).unused = (ofSecond.1.usage id).unused ∧
            (ofFirst.1.usage id).deprecated = (ofSecond.1.usage id).deprecated) := by
  intro ofFirst ofSecond
  have hothers : ∀ option ∈ second.options, option.isSetter = false := fun option hoption =>
    hfields option (hperm.mem_iff.2 hoption)
  have hsettled : ofFirst.2.settled? = ofSecond.2.settled? := by
    unfold ofFirst ofSecond Store.inject Injection.injectAll
    dsimp only
    rw [Injection.settled?_injectOptions hfields, Injection.settled?_injectOptions hothers,
      Injection.settleOptions_perm hperm hfields hindependent,
      Injection.settleOptions_congr _ _ hscope hformer]
    rfl
  refine ⟨?_, fun hok => ?_⟩
  · rw [InjectionResult.error?_eq_none_iff, InjectionResult.error?_eq_none_iff, hsettled]
  · have hfirst : ofFirst.2.settled? =
        some (ofFirst.2.reached.target, ofFirst.2.reached.usage) :=
      InjectionResult.settled?_eq_some_iff.2 ⟨hok, rfl, rfl⟩
    obtain ⟨-, htarget, husage⟩ := InjectionResult.settled?_eq_some_iff.1 (hsettled ▸ hfirst)
    refine ⟨htarget.symm, fun id => ?_⟩
    have hstore : ofFirst.1 = ofSecond.1 :=
      congrArg (store.setUsage config.usage) husage.symm
    rw [hstore]
    exact ⟨rfl, rfl⟩

/-! ## A sample -/

namespace OrderSample

/-- An option that was called as the next one is now. -/
def renamed : OptionDeclaration (String × String) :=
  { OptionDeclaration.ofField "x" (.element .string) Prod.fst
      (fun value (pair : String × String) => (value, pair.2)) with deprecatedName? := some "y" }

def plain : OptionDeclaration (String × String) :=
  .ofField "y" (.element .string) Prod.snd fun value pair => (pair.1, value)

def declaration : Declaration (String × String) :=
  ⟨"p", some "q", "", [renamed, plain]⟩

def turned : Declaration (String × String) :=
  ⟨"p", some "q", "", [plain, renamed]⟩

def store : Store :=
  Store.initial (.ofDisk (.ofWorkingDirectory []))

/-- A view below `v` in which both options are found under the same former name. -/
def config : Configuration :=
  { Configuration.empty "r" false 0 (.memory .empty) with
    settings := .ofSettings [("v.q.y", ⟨"b", .manual⟩)]
    keyPrefix := "v." }

theorem independent_renamed_plain : renamed.Independent plain :=
  OptionDeclaration.independent_of_access rfl rfl (fun _ _ => rfl) (fun _ _ => rfl)
    fun _ _ _ => rfl

theorem injection_order_irrelevant_sample :
    declaration.options.Perm turned.options ∧
      (∀ option ∈ declaration.options, option.isSetter = false) ∧
      declaration.options.Pairwise OptionDeclaration.Independent ∧
      (store.inject config declaration ("a", "c") none).2.error? = none ∧
      (store.inject config turned ("a", "c") none).2.error? = none ∧
      (store.inject config turned ("a", "c") none).2.reached.target = ("b", "b") := by
  have hperm : declaration.options.Perm turned.options := .swap ..
  have hfields : ∀ option ∈ declaration.options, option.isSetter = false := by
    simp [declaration, renamed, plain, OptionDeclaration.isSetter, OptionDeclaration.ofField]
  have hindependent : declaration.options.Pairwise OptionDeclaration.Independent :=
    List.pairwise_pair.2 independent_renamed_plain
  have hok : (store.inject config declaration ("a", "c") none).2.error? = none := by
    decide +kernel
  obtain ⟨hiff, hsame⟩ := injection_order_irrelevant store config declaration turned ("a", "c")
    none rfl rfl hperm hfields hindependent
  refine ⟨hperm, hfields, hindependent, hok, hiff.1 hok, ?_⟩
  rw [← (hsame hok).1]
  decide +kernel

end OrderSample

end TypedOptions
