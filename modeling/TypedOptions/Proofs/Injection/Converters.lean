import TypedOptions.Converter.Samples
import TypedOptions.Proofs.Builder.Sessions

/-!
# The choice of a converter

Of the converters that the documentation lists for an option, the first that
there is should be used: the override for the annotation, what the registry
has for the annotation, the override for the type, what the registry has for
the type, and the plain converter.  For files the converter of the
configuration should stand in where there is no other for the annotation; in
fact it is put before that of the registry.
-/

namespace TypedOptions

namespace Session

variable {τ : Type} {environment : Environment} {history : List Event} {session : Session}
  {holder : Holder} {config : Configuration}

/-- The configurations that options are injected from: those that have come into being, and those
that builders inject their own options from while they build. -/
inductive Holds (session : Session) : Holder → Configuration → Prop where
  | configuration {number : Nat} {config : Configuration}
      (hconfig : session.configurations[number]? = some config) :
      Holds session (.configuration number) config
  | draft (id : BuilderId) (usage : UsageId) (fileConverter : FileConverter) :
      Holds session (.builder id)
        { (session.builders id).draft session.store usage with fileConverter }

/-- What is listed for the annotation of an option. -/
def listedByKind (history : List Event) (holder : Holder) (config : Configuration)
    (kind : AnnotationKind) : List (Option Converter) :=
  [override? history holder (.annotated kind),
    registered? history config.registry (.annotated kind),
    if kind = .file then some (.files config.fileConverter) else none]

/-- What is listed for the type of an option or of its elements. -/
def listedByType (history : List Event) (holder : Holder) (config : Configuration)
    (key : TypeKey) : List (Option Converter) :=
  [override? history holder (.type key), registered? history config.registry (.type key)]

/-- The converter that should be used for an option. -/
def documented (history : List Event) (holder : Holder) (config : Configuration)
    (option : OptionDeclaration τ) : Converter :=
  let byKind := option.annotations.head?.elim [] fun annotation =>
    listedByKind history holder config annotation.kind
  let byType := listedByType history holder config option.optionType.elementType.key
  ((byKind ++ byType).findSome? id).getD .plain

/-- A converter for files is registered, and the converter of the configuration is put before
it. -/
structure RegisteredInVain (history : List Event) (holder : Holder) (config : Configuration)
    (option : OptionDeclaration τ) : Prop where
  isFile : option.annotations.head?.map Annotation.kind = some .file
  notOverridden : override? history holder (.annotated .file) = none
  isRegistered : (registered? history config.registry (.annotated .file)).isSome = true

theorem Records.lookup_of_holds (hrecords : Records history session)
    (hholds : session.Holds holder config) (key : ConverterKey) :
    config.overrides.lookup key = override? history holder key := by
  cases hholds with
  | configuration hconfig => exact hrecords.configurations _ _ hconfig key
  | draft id usage fileConverter => exact hrecords.builders id key

theorem findSome?_listedByType (hrecords : Records history session)
    (hholds : session.Holds holder config) (key : TypeKey) :
    (listedByType history holder config key).findSome? id =
      config.typeConverter? (session.store.registry config.registry) key := by
  rw [Configuration.typeConverter?, hrecords.lookup_of_holds hholds, hrecords.registries,
    listedByType]
  cases override? history holder (.type key) <;>
    cases registered? history config.registry (.type key) <;> rfl

theorem annotationConverter?_of_inVain (hrecords : Records history session)
    (hholds : session.Holds holder config)
    (hnone : override? history holder (.annotated .file) = none) :
    config.annotationConverter? (session.store.registry config.registry) .file =
      some (.files config.fileConverter) := by
  rw [Configuration.annotationConverter?, hrecords.lookup_of_holds hholds, hnone, Option.none_or,
    if_pos rfl]

/-- Unless a converter for files is registered and not overridden, the first on the list is used. -/
theorem findSome?_listedByKind (hrecords : Records history session)
    (hholds : session.Holds holder config) {kind : AnnotationKind}
    (hseen : kind = .file → override? history holder (.annotated .file) = none →
      registered? history config.registry (.annotated .file) = none) :
    (listedByKind history holder config kind).findSome? id =
      config.annotationConverter? (session.store.registry config.registry) kind := by
  rw [Configuration.annotationConverter?, hrecords.lookup_of_holds hholds, hrecords.registries,
    listedByKind]
  cases hoverride : override? history holder (.annotated kind) with
  | some converter => rfl
  | none =>
      by_cases hfile : kind = .file
      · subst hfile
        rw [hseen rfl hoverride]
        rfl
      · rw [if_neg hfile, if_neg hfile]
        cases registered? history config.registry (.annotated kind) <;> rfl

theorem converter_eq_documented (hrecords : Records history session)
    (hholds : session.Holds holder config) (option : OptionDeclaration τ)
    (hseen : ¬RegisteredInVain history holder config option) :
    (⟨config, session.store.registries⟩ : Surroundings).converter option =
      documented history holder config option := by
  change config.converter (session.store.registry config.registry) _ _ = _
  unfold Configuration.converter documented
  dsimp only
  rw [List.findSome?_append, findSome?_listedByType hrecords hholds]
  cases hhead : option.annotations.head? with
  | none => rfl
  | some annotation =>
      have hlisted := findSome?_listedByKind hrecords hholds fun hfile hnone =>
        Option.not_isSome_iff_eq_none.1 fun hsome =>
          hseen ⟨by rw [hhead]; exact congrArg some hfile, hnone, hsome⟩
      rw [Option.elim_some, hlisted]
      rfl

theorem converter_of_inVain (hrecords : Records history session)
    (hholds : session.Holds holder config) {option : OptionDeclaration τ}
    (hvain : RegisteredInVain history holder config option) :
    (⟨config, session.store.registries⟩ : Surroundings).converter option =
      .files config.fileConverter := by
  obtain ⟨first, hhead, hkind⟩ := Option.map_eq_some_iff.1 hvain.isFile
  change config.converter (session.store.registry config.registry) _ _ = _
  rw [Configuration.converter, hhead, Option.bind_some, hkind,
    annotationConverter?_of_inVain hrecords hholds hvain.notOverridden]
  rfl

/-- After every history the converter of an option is the first of the list, except that the
converter for files of the configuration is put before that of the registry.  A converter that is
added to a builder means nothing to configurations whose contents do not come from it. -/
theorem converter_chosen_by_history (hrun : Run environment history session) :
    (∀ holder config, session.Holds holder config →
      ∀ (τ : Type) (option : OptionDeclaration τ),
        let used := (⟨config, session.store.registries⟩ : Surroundings).converter option
        (¬RegisteredInVain history holder config option →
          used = documented history holder config option) ∧
        (RegisteredInVain history holder config option →
          used = .files config.fileConverter)) ∧
      ∀ before after id key converter number config,
        history = after ++ .overridden id key converter :: before →
        origin? before after (.configuration number) ≠ some (.builder id) →
        session.configurations[number]? = some config →
        ∀ other, config.overrides.lookup other =
          override? (after ++ before) (.configuration number) other := by
  have hrecords := records_run hrun
  constructor
  · intro holder config hholds τ option used
    exact ⟨converter_eq_documented hrecords hholds option,
      converter_of_inVain hrecords hholds⟩
  · intro before after id key converter number config hhistory horigin hconfig other
    rw [hrecords.configurations number config hconfig other, hhistory]
    exact override?_of_origin?_ne key converter horigin other

end Session

/-! ## Samples -/

namespace ConvertersSample

open Session

def environment : Environment :=
  .ofDisk (.ofWorkingDirectory [])

/-- What a build of a builder of the session yields, if it does. -/
def built (session : Session) (id : BuilderId) : Configuration :=
  (((session.builders id).build session.store).outcome.toOption).getD
    (.empty "global" false 0 (.memory .empty))

def afterBuild (session : Session) (id : BuilderId) : Session :=
  (session.setBuilder id .empty).add ((session.builders id).build session.store).store
    (built session id)

theorem run_afterBuild {history : List Event} {session : Session}
    (hrun : Run environment history session) {id : BuilderId}
    (hok : ((session.builders id).build session.store).outcome.toOption.isSome = true) :
    Run environment (.built id :: history) (afterBuild session id) :=
  hrun.step (.built id (eq_ok_getD hok _))

def withRegistered (session : Session) (key : ConverterKey) (converter : Converter) : Session :=
  { session with store := (session.store.register "global" key converter).1 }

def file : OptionDeclaration (Option Path) :=
  { OptionDeclaration.ofField "p" (.nullable (.element .path)) id fun path _ => path with
    annotations := [.file .optionalInput] }

def always : Converter :=
  .custom (.constant (.path ⟨"/c"⟩))

/-- Although a converter for files is registered before a configuration is built, the configuration
does not use it. -/
theorem registered_for_files_ignored :
    let history : List Event := [.built 0, .registered "global" (.annotated .file) always]
    let registered := withRegistered (start environment) (.annotated .file) always
    let session := afterBuild registered 0
    let config := built registered 0
    Run environment history session ∧ session.configurations[0]? = some config ∧
      documented history (.configuration 0) config file = always ∧
      (⟨config, session.store.registries⟩ : Surroundings).converter file =
        .files config.fileConverter :=
  ⟨run_afterBuild (Run.start.step (.registered ..)) (by decide +kernel), rfl, rfl, rfl⟩

/-- The first builder gets a converter of its own. -/
def overridden : Session :=
  (start environment).setBuilder 0
    (((start environment).builders 0).addConverter (.annotated .integer) (.custom .doubling))

/-- The second one starts from the configuration of the first. -/
def copied : Session :=
  (afterBuild overridden 0).setBuilder 1
    (((afterBuild overridden 0).builders 1).copyFrom (built overridden 0)).builder

/-- After the third one, which has nothing to do with them, the registry is changed. -/
def last : Session :=
  withRegistered (afterBuild (afterBuild copied 1) 2) (.annotated .integer) (.custom .describing)

def history : List Event :=
  [.registered "global" (.annotated .integer) (.custom .describing), .built 2, .built 1,
    .copied 1 0, .built 0, .overridden 0 (.annotated .integer) (.custom .doubling)]

def number : OptionDeclaration (Option Int32) :=
  { OptionDeclaration.ofField "n" (.nullable (.element .int)) id fun value _ => value with
    annotations := [.integer .all] }

theorem run_last : Run environment history last := by
  have hfirst : Run environment _ (afterBuild overridden 0) :=
    run_afterBuild (Run.start.step (.overridden ..)) (by decide +kernel)
  have hconfig : (afterBuild overridden 0).configurations[0]? = some (built overridden 0) := rfl
  have hcopied : Run environment _ copied := hfirst.step (.copied 1 hconfig rfl)
  have hsecond : Run environment _ (afterBuild copied 1) :=
    run_afterBuild hcopied (by decide +kernel)
  have hthird : Run environment _ (afterBuild (afterBuild copied 1) 2) :=
    run_afterBuild hsecond (by decide +kernel)
  exact hthird.step (.registered ..)

theorem converter_chosen_by_history_sample :
    let copy := built copied 1
    let apart := built (afterBuild copied 1) 2
    Run environment history last ∧
      last.configurations[1]? = some copy ∧ last.configurations[2]? = some apart ∧
      (⟨copy, last.store.registries⟩ : Surroundings).converter number = .custom .doubling ∧
      (⟨apart, last.store.registries⟩ : Surroundings).converter number = .custom .describing ∧
      apart.overrides.lookup (.annotated .integer) = none := by
  intro copy apart
  have hcopy : last.configurations[1]? = some copy := rfl
  have hapart : last.configurations[2]? = some apart := rfl
  obtain ⟨hchosen, hindependent⟩ := converter_chosen_by_history run_last
  refine ⟨run_last, hcopy, hapart, ?_, ?_, ?_⟩
  · exact (hchosen _ copy (.configuration hcopy) _ number).1 fun hvain => by cases hvain.isFile
  · exact (hchosen _ apart (.configuration hapart) _ number).1 fun hvain => by cases hvain.isFile
  · exact hindependent [] (history.take 5) 0 _ _ 2 apart rfl (by decide) hapart _

end ConvertersSample

end TypedOptions
