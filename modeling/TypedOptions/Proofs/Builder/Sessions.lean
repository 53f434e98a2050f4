import TypedOptions.Proofs.Builder.Calls
import TypedOptions.Proofs.Injection.SafeMode

/-!
# Sessions

In a session a program registers converters, adds converters to builders,
starts builders from configurations, and builds.  Its history tells which
converters a registry has, and which ones every builder and configuration
uses instead of them: those that were added last on the way on which its
contents came to it, through builds, copies and views.
-/

namespace TypedOptions

/-- Builders are numbered. -/
abbrev BuilderId := Nat

/-- The configurations of a session are numbered in the order in which they came into being. -/
structure Session where
  store : Store
  builders : BuilderId → Builder
  configurations : List Configuration

/-- Whether the call leaves the builder's own converters alone whatever comes out of it. -/
def Builder.Call.keepsConverters : Builder.Call → Bool
  | .addConverter _ _ => false
  | .copyFrom _ => false
  | .build _ => false
  | _ => true

namespace Session

def start (environment : Environment) : Session :=
  ⟨.initial environment, fun _ => .empty, []⟩

def setBuilder (session : Session) (id : BuilderId) (builder : Builder) : Session :=
  { session with builders := fun other => if other = id then builder else session.builders other }

def add (session : Session) (store : Store) (config : Configuration) : Session :=
  { session with store, configurations := session.configurations ++ [config] }

/-- What bears on the converters of registries, builders and configurations. -/
inductive Event where
  | registered (registry : RegistryId) (key : ConverterKey) (converter : Converter)
  | overridden (builder : BuilderId) (key : ConverterKey) (converter : Converter)
  /-- The builder started from a configuration. -/
  | copied (builder : BuilderId) (number : Nat)
  | built (builder : BuilderId)
  /-- A configuration came into being that no builder of the session was asked for. -/
  | opened
  /-- A view or a clone of a configuration came into being. -/
  | derived (number : Nat)
  | elsewhere

/-- What a program does, with the event that it is. -/
inductive Step (session : Session) : Event → Session → Prop where
  | registered (registry : RegistryId) (key : ConverterKey) (converter : Converter) :
      Step session (.registered registry key converter)
        { session with store := (session.store.register registry key converter).1 }
  | overridden (id : BuilderId) (key : ConverterKey) (converter : Converter) :
      Step session (.overridden id key converter)
        (session.setBuilder id ((session.builders id).addConverter key converter))
  | copied (id : BuilderId) {number : Nat} {config : Configuration}
      (hconfig : session.configurations[number]? = some config)
      (hcopy : ((session.builders id).copyFrom config).outcome = .ok ()) :
      Step session (.copied id number)
        (session.setBuilder id ((session.builders id).copyFrom config).builder)
  | refused (id : BuilderId) {config : Configuration} {error : OptionError}
      (hcopy : ((session.builders id).copyFrom config).outcome = .error error) :
      Step session .elsewhere
        (session.setBuilder id ((session.builders id).copyFrom config).builder)
  | called (id : BuilderId) {call : Builder.Call} (hcall : call.keepsConverters = true) :
      Step session .elsewhere (session.setBuilder id ((session.builders id).perform call))
  | built (id : BuilderId) {config : Configuration}
      (hbuild : ((session.builders id).build session.store).outcome = .ok config) :
      Step session (.built id)
        ((session.setBuilder id .empty).add ((session.builders id).build session.store).store
          config)
  | failed (id : BuilderId) {error : OptionError}
      (hbuild : ((session.builders id).build session.store).outcome = .error error) :
      Step session .elsewhere
        { session with store := ((session.builders id).build session.store).store }
  | arguments (arguments : List String) {config : Configuration}
      (hbuild : (Builder.buildFromArguments session.store arguments).outcome = .ok config) :
      Step session .opened
        (session.add (Builder.buildFromArguments session.store arguments).store config)
  | opened :
      Step session .opened
        (session.add session.store.defaultConfiguration.1 session.store.defaultConfiguration.2)
  | viewed {number : Nat} {config : Configuration}
      (hconfig : session.configurations[number]? = some config) (text : String) :
      Step session (.derived number) (session.add session.store (config.withPrefix text))
  | cloned {number : Nat} {config : Configuration}
      (hconfig : session.configurations[number]? = some config) :
      Step session (.derived number) (session.add session.store config)
  | asked (config : Configuration) (name : String) :
      Step session .elsewhere { session with store := (session.store.value? config name).1 }
  | injected {τ : Type} (config : Configuration) (declaration : Declaration τ) (target : τ)
      (defaults? : Option τ) :
      Step session .elsewhere
        { session with store := (session.store.inject config declaration target defaults?).1 }
  | registeredClass (registry : RegistryId) (entry : RegisteredClass) :
      Step session .elsewhere { session with store := session.store.registerClass registry entry }
  | enabled (registry : RegistryId) :
      Step session .elsewhere { session with store := (session.store.enableSecure registry).1 }

/-- A session that has gone through a history, whose last event comes first. -/
inductive Run (environment : Environment) : List Event → Session → Prop where
  | start : Run environment [] (.start environment)
  | step {history : List Event} {event : Event} {session next : Session}
      (hrun : Run environment history session) (hstep : session.Step event next) :
      Run environment (event :: history) next

/-! ## What a history tells -/

/-- The converter that a registry has for a key: the last one that was registered, or else the
one that is built in. -/
def registered? : List Event → RegistryId → ConverterKey → Option Converter
  | [], registry, key => (Registry.builtInConverters registry).lookup key
  | .registered id other converter :: before, registry, key =>
      if id = registry ∧ key = other then some converter else registered? before registry key
  | _ :: before, registry, key => registered? before registry key

def Event.creates : Event → Bool
  | .built _ => true
  | .opened => true
  | .derived _ => true
  | _ => false

/-- How many configurations have come into being. -/
def created (history : List Event) : Nat :=
  history.countP Event.creates

/-- What has converters of its own. -/
inductive Holder where
  | builder (id : BuilderId)
  | configuration (number : Nat)
  deriving DecidableEq

/-- Who had before the event what a holder has after it, if anybody had.  The configuration that
the event brings into being, if it does, gets the number `count`. -/
def Event.source? (count : Nat) : Event → Holder → Option Holder
  | .copied id number, .builder other =>
      some (if other = id then .configuration number else .builder other)
  | .built id, .builder other => if other = id then none else some (.builder other)
  | .built id, .configuration number =>
      some (if number = count then .builder id else .configuration number)
  | .opened, .configuration number =>
      if number = count then none else some (.configuration number)
  | .derived origin, .configuration number =>
      some (.configuration (if number = count then origin else number))
  | _, holder => some holder

/-- The converter that the event adds to a holder for a key. -/
def Event.gives? : Event → Holder → ConverterKey → Option Converter
  | .overridden id other converter, holder, key =>
      if holder = .builder id ∧ key = other then some converter else none
  | _, _, _ => none

/-- The converter that a holder uses for a key instead of that of a registry: the last one that
was added to it, or to whom its contents come from. -/
def override? : List Event → Holder → ConverterKey → Option Converter
  | [], _, _ => none
  | event :: before, holder, key =>
      (event.gives? holder key).or
        ((event.source? (created before) holder).bind fun source => override? before source key)

/-- Who had what a holder has after the events `after` when they began. -/
def origin? (before : List Event) : List Event → Holder → Option Holder
  | [], holder => some holder
  | event :: after, holder =>
      (event.source? (created (after ++ before)) holder).bind (origin? before after)

/-! ## Overrides stay with their configurations -/

theorem created_overridden {before : List Event} (after : List Event) (id : BuilderId)
    (key : ConverterKey) (converter : Converter) :
    created (after ++ .overridden id key converter :: before) = created (after ++ before) := by
  simp [created, List.countP_append, Event.creates]

/-- A converter that is added to a builder means nothing to whoever has nothing of this builder. -/
theorem override?_of_origin?_ne {before : List Event} {after : List Event} {holder : Holder}
    {id : BuilderId} (key : ConverterKey) (converter : Converter)
    (horigin : origin? before after holder ≠ some (.builder id)) (other : ConverterKey) :
    override? (after ++ .overridden id key converter :: before) holder other =
      override? (after ++ before) holder other := by
  induction after generalizing holder with
  | nil =>
      have hholder : holder ≠ .builder id := fun heq => horigin (congrArg some heq)
      have hnothing : (Event.overridden id key converter).gives? holder other = none :=
        if_neg fun hboth => hholder hboth.1
      rw [List.nil_append, override?, hnothing, Option.none_or]
      rfl
  | cons event after ih =>
      rw [List.cons_append, List.cons_append, override?, override?, created_overridden]
      cases hsource : event.source? (created (after ++ before)) holder with
      | none => rfl
      | some source =>
          have hrest : origin? before after source ≠ some (.builder id) := by
            rwa [origin?, hsource, Option.bind_some] at horigin
          rw [Option.bind_some, Option.bind_some, ih hrest]

/-! ## Sessions are as their histories tell -/

/-- The session has the converters that its history tells of. -/
structure Records (history : List Event) (session : Session) : Prop where
  created : session.configurations.length = created history
  registries : ∀ registry key,
    (session.store.registry registry).converter? key = registered? history registry key
  builders : ∀ id key,
    (session.builders id).overrides.lookup key = override? history (.builder id) key
  configurations : ∀ number config, session.configurations[number]? = some config →
    ∀ key, config.overrides.lookup key = override? history (.configuration number) key

variable {history : List Event} {session next : Session} {environment : Environment}

theorem records_start (environment : Environment) : Records [] (.start environment) where
  created := rfl
  registries _ _ := rfl
  builders _ _ := rfl
  configurations number config hconfig := by simp [Session.start] at hconfig

/-- Nothing happens that a history tells of. -/
theorem Records.elsewhere (hrecords : Records history session)
    (hregistries : ∀ registry key, (next.store.registry registry).converter? key =
      (session.store.registry registry).converter? key)
    (hbuilders : ∀ id, (next.builders id).overrides = (session.builders id).overrides)
    (hconfigurations : next.configurations = session.configurations) :
    Records (.elsewhere :: history) next where
  created := by
    rw [hconfigurations]
    exact hrecords.created
  registries registry key := by
    rw [hregistries]
    exact hrecords.registries registry key
  builders id key := by
    rw [hbuilders]
    exact hrecords.builders id key
  configurations number config hconfig key := by
    rw [hconfigurations] at hconfig
    exact hrecords.configurations number config hconfig key

theorem Records.setStore (hrecords : Records history session) {store : Store}
    (hregistries : ∀ registry key, (store.registry registry).converter? key =
      (session.store.registry registry).converter? key) :
    Records (.elsewhere :: history) { session with store } :=
  hrecords.elsewhere hregistries (fun _ => rfl) rfl

/-- A configuration comes into being, with the converters that the event says. -/
theorem Records.add (hrecords : Records history session) {event : Event} {store : Store}
    {builders : BuilderId → Builder} {config : Configuration} (hcreates : event.creates = true)
    (hregistries : store.registries = session.store.registries)
    (hbuilders : ∀ id key,
      (builders id).overrides.lookup key = override? (event :: history) (.builder id) key)
    (hconfig : ∀ key, config.overrides.lookup key =
      override? (event :: history) (.configuration (Session.created history)) key) :
    Records (event :: history) ⟨store, builders, session.configurations ++ [config]⟩ where
  created := by
    rw [List.length_append, hrecords.created, Session.created, Session.created, List.countP_cons,
      hcreates]
    rfl
  registries registry key := by
    have hsame : registered? (event :: history) registry key =
        registered? history registry key := by
      cases event with
      | registered id other converter => cases hcreates
      | _ => rfl
    change (store.registries.get registry).converter? key = _
    rw [hsame, hregistries]
    exact hrecords.registries registry key
  builders := hbuilders
  configurations number other hother key := by
    rw [List.getElem?_append] at hother
    split at hother
    · rename_i hless
      have hne : number ≠ Session.created history := hrecords.created ▸ Nat.ne_of_lt hless
      have hsame : override? (event :: history) (.configuration number) key =
          override? history (.configuration number) key := by
        cases event with
        | built | opened | derived =>
            simp [override?, Event.source?, Event.gives?, hne]
        | _ => cases hcreates
      rw [hsame]
      exact hrecords.configurations number other hother key
    · rename_i hless
      obtain ⟨hzero, rfl⟩ : number - session.configurations.length = 0 ∧ config = other := by
        simpa [List.getElem?_singleton] using hother
      have hnumber : number = Session.created history := by
        rw [← hrecords.created]
        omega
      rw [hnumber]
      exact hconfig key

theorem overrides_setAll (builder : Builder) (pairs : List (String × String)) :
    (builder.setAll pairs).overrides = builder.overrides := by
  unfold Builder.setAll
  induction pairs generalizing builder with
  | nil => rfl
  | cons pair rest ih => exact ih (builder.set pair.1 pair.2)

theorem overrides_perform {builder : Builder} {call : Builder.Call}
    (hcall : call.keepsConverters = true) :
    (builder.perform call).overrides = builder.overrides := by
  cases call with
  | addConverter | copyFrom | build => cases hcall
  | setAll pairs => exact overrides_setAll builder pairs
  | copySettingFrom config name =>
      simp only [Builder.perform, Builder.run, Builder.copySettingFrom]
      cases config.settings[name]? <;> rfl
  | addSettings | loadFile | loadText | loadDefault =>
      rw [Builder.perform_of_adds rfl]
      cases builder.added? _ <;> rfl
  | _ => rfl

theorem overrides_of_copyFrom {builder : Builder} {config : Configuration}
    (hcopy : (builder.copyFrom config).outcome = .ok ()) :
    (builder.copyFrom config).builder.overrides = config.overrides := by
  unfold Builder.copyFrom at hcopy ⊢
  split at hcopy
  · cases hcopy
  · rename_i hmodified
    rw [if_neg hmodified]
    rfl

theorem Records.replace (hrecords : Records history session) {id : BuilderId}
    {builder : Builder} (hbuilder : builder.overrides = (session.builders id).overrides) :
    Records (.elsewhere :: history) (session.setBuilder id builder) := by
  refine hrecords.elsewhere (fun _ _ => rfl) (fun other => ?_) rfl
  by_cases hsame : other = id
  · subst hsame
    simp [setBuilder, hbuilder]
  · simp [setBuilder, hsame]

theorem overrides_of_build {builder : Builder} {store : Store} {config : Configuration}
    (hbuild : (builder.build store).outcome = .ok config) :
    config.overrides = builder.overrides := by
  rw [Builder.config_of_build hbuild]
  rfl

/-- The arguments of a command line go to a builder that is fresh. -/
theorem exists_settings_of_arguments {store : Store} {arguments : List String}
    {config : Configuration}
    (hbuild : (Builder.buildFromArguments store arguments).outcome = .ok config) :
    ∃ settings, Builder.buildFromArguments store arguments =
      (Builder.empty.addSettings settings).build store := by
  unfold Builder.buildFromArguments at hbuild ⊢
  cases hread : CommandLine.read arguments with
  | error cause =>
      rw [hread] at hbuild
      cases hbuild
  | ok settings => exact ⟨settings, rfl⟩

theorem converters_setRegistry {store : Store} {registry : RegistryId} {changed : Registry}
    (hsame : changed.converters = (store.registry registry).converters) (other : RegistryId)
    (key : ConverterKey) :
    ((store.setRegistry registry changed).registry other).converter? key =
      (store.registry other).converter? key := by
  rw [Store.registry_setRegistry]
  split
  · rename_i heq
    subst heq
    rw [Registry.converter?, hsame]
    rfl
  · rfl

theorem lookup_cons (key other : ConverterKey) (converter : Converter) (table : ConverterTable) :
    List.lookup other ((key, converter) :: table) =
      (if other = key then some converter else none).or (table.lookup other) := by
  rw [List.lookup_cons]
  by_cases hsame : other = key
  · simp [hsame]
  · have hbeq : (other == key) = false := by simpa using hsame
    simp [hsame, hbeq]

theorem Records.registered (hrecords : Records history session) (registry : RegistryId)
    (key : ConverterKey) (converter : Converter) :
    Records (.registered registry key converter :: history)
      { session with store := (session.store.register registry key converter).1 } where
  created := hrecords.created
  registries other name := by
    change ((session.store.setRegistry registry _).registry other).converter? name = _
    rw [Store.registry_setRegistry, registered?]
    by_cases hsame : registry = other
    · subst hsame
      rw [if_pos rfl, Registry.converter?_register, hrecords.registries]
      simp
    · rw [if_neg hsame, if_neg fun hboth => hsame hboth.1]
      exact hrecords.registries other name
  builders := hrecords.builders
  configurations := hrecords.configurations

theorem Records.overridden (hrecords : Records history session) (id : BuilderId)
    (key : ConverterKey) (converter : Converter) :
    Records (.overridden id key converter :: history)
      (session.setBuilder id ((session.builders id).addConverter key converter)) where
  created := hrecords.created
  registries := hrecords.registries
  builders other name := by
    simp only [setBuilder, override?, Event.gives?, Event.source?, Holder.builder.injEq,
      Option.bind_some]
    by_cases hsame : other = id
    · subst hsame
      rw [if_pos rfl, ← hrecords.builders, Builder.addConverter, lookup_cons]
      simp
    · simp [hsame, hrecords.builders]
  configurations number config hconfig name := hrecords.configurations number config hconfig name

theorem Records.copied (hrecords : Records history session) (id : BuilderId) {number : Nat}
    {config : Configuration} (hconfig : session.configurations[number]? = some config)
    (hcopy : ((session.builders id).copyFrom config).outcome = .ok ()) :
    Records (.copied id number :: history)
      (session.setBuilder id ((session.builders id).copyFrom config).builder) where
  created := hrecords.created
  registries := hrecords.registries
  builders other name := by
    simp only [setBuilder, override?, Event.gives?, Event.source?, Option.none_or,
      Option.bind_some]
    by_cases hsame : other = id
    · rw [if_pos hsame, if_pos hsame, overrides_of_copyFrom hcopy]
      exact hrecords.configurations number config hconfig name
    · rw [if_neg hsame, if_neg hsame]
      exact hrecords.builders other name
  configurations place other hother name := hrecords.configurations place other hother name

theorem Records.built (hrecords : Records history session) (id : BuilderId)
    {config : Configuration}
    (hbuild : ((session.builders id).build session.store).outcome = .ok config) :
    Records (.built id :: history)
      ((session.setBuilder id .empty).add ((session.builders id).build session.store).store
        config) := by
  refine hrecords.add rfl (Builder.registries_build ..) (fun other name => ?_) fun name => ?_
  · simp only [setBuilder, override?, Event.gives?, Event.source?, Option.none_or]
    by_cases hsame : other = id
    · rw [if_pos hsame, if_pos hsame]
      rfl
    · rw [if_neg hsame, if_neg hsame]
      exact hrecords.builders other name
  · rw [overrides_of_build hbuild, hrecords.builders]
    simp [override?, Event.gives?, Event.source?]

theorem Records.opened (hrecords : Records history session) {store : Store}
    {config : Configuration} (hregistries : store.registries = session.store.registries)
    (hconfig : config.overrides = []) :
    Records (.opened :: history) (session.add store config) := by
  refine hrecords.add rfl hregistries hrecords.builders fun name => ?_
  rw [hconfig]
  simp [override?, Event.gives?, Event.source?]

theorem Records.derived (hrecords : Records history session) {number : Nat}
    {config other : Configuration} (hconfig : session.configurations[number]? = some config)
    (hother : other.overrides = config.overrides) :
    Records (.derived number :: history) (session.add session.store other) := by
  refine hrecords.add rfl rfl hrecords.builders fun name => ?_
  rw [hother, hrecords.configurations number config hconfig]
  simp [override?, Event.gives?, Event.source?]

theorem Records.step (hrecords : Records history session) {event : Event}
    (hstep : session.Step event next) : Records (event :: history) next := by
  cases hstep with
  | registered registry key converter => exact hrecords.registered registry key converter
  | overridden id key converter => exact hrecords.overridden id key converter
  | copied id hconfig hcopy => exact hrecords.copied id hconfig hcopy
  | @refused id config error hcopy =>
      have hkept : (session.builders id).perform (.copyFrom config) = session.builders id :=
        Builder.perform_of_error hcopy
      exact hrecords.replace (congrArg Builder.overrides hkept)
  | called id hcall => exact hrecords.replace (overrides_perform hcall)
  | built id hbuild => exact hrecords.built id hbuild
  | failed id hbuild =>
      refine hrecords.setStore fun registry key => ?_
      rw [Store.registry, Builder.registries_build]
      rfl
  | arguments arguments hbuild =>
      obtain ⟨settings, hsettings⟩ := exists_settings_of_arguments hbuild
      rw [hsettings] at hbuild ⊢
      exact hrecords.opened (Builder.registries_build ..) (overrides_of_build hbuild)
  | opened => exact hrecords.opened rfl rfl
  | viewed hconfig text => exact hrecords.derived hconfig rfl
  | cloned hconfig => exact hrecords.derived hconfig rfl
  | asked config name => exact hrecords.setStore fun _ _ => rfl
  | injected config declaration target defaults? => exact hrecords.setStore fun _ _ => rfl
  | registeredClass registry entry => exact hrecords.setStore (converters_setRegistry rfl)
  | enabled registry => exact hrecords.setStore (converters_setRegistry rfl)

theorem records_run (hrun : Run environment history session) : Records history session := by
  induction hrun with
  | start => exact records_start environment
  | step _ hstep ih => exact ih.step hstep

end Session

end TypedOptions
