import TypedOptions.Proofs.Converter.Defaults
import TypedOptions.Proofs.Injection.OwnFields
import TypedOptions.Proofs.Value.Written

/-!
# Injections that are repeated

An injection takes what an object holds for its defaults, so a second one has
the results of the first one for defaults.  Settings are converted to the same
values again, and so are all defaults but those of files, which are placed once
more.  A place that is absolute stays what it is.  One that is relative, because
the start directory is, is placed below the start directory a second time.
-/

namespace TypedOptions

variable {τ : Type}

/-! ## Contents that are written -/

/-- What a file option was given as its default, and has written, stays where it is. -/
theorem FileConverter.placeDefault_of_written {converter : FileConverter}
    {context : ConversionContext} {kind : FileKind} {type : FieldType} {default value : Value}
    {content : type.Carrier} (hplaced : converter.placeDefault context kind default = .ok value)
    (hwritten : type.ofValue? value = some content)
    (hanchored : (type.toValue content).Throughout Value.IsAnchored) :
    converter.placeDefault context kind (type.toValue content) = .ok (type.toValue content) := by
  cases hdisabled : kind.isOutput && converter.outputDisabled with
  | false =>
      have hstays := throughout_of_placeDefault hdisabled hplaced
      exact placeDefault_of_anchored hdisabled (FieldType.throughout_of_written hwritten hstays)
        hanchored
  | true =>
      rw [placeDefault_of_disabled hdisabled] at hplaced ⊢
      cases hplaced
      rw [FieldType.toValue_of_emptied hwritten, Value.emptied_emptied]

theorem OptionDeclaration.take?_toValue {option : OptionDeclaration τ} {value : Value}
    {content : option.type.Carrier} (hwritten : option.type.ofValue? value = some content) :
    option.take? content (option.type.toValue content) = some content := by
  unfold take?
  split
  · rfl
  · exact FieldType.ofValue?_toValue_of_written hwritten

namespace Injection

/-! ## One field -/

section Field

variable (given : Surroundings) (declaration : Declaration τ) (option : OptionDeclaration τ)

/-- A file option that is not set has a default that moves with every injection. -/
structure Relocates (content : option.type.Carrier) : Prop where
  unset : (given.config.finding declaration option).chosen? = none
  isFile : option.fileKind?.isSome = true
  relative : ¬(option.type.toValue content).Throughout Value.IsAnchored

variable {given declaration option} {held next : option.type.Carrier}

theorem convertDefault_of_settled (hserves : given.ServesBuiltIn option) {default value : Value}
    (hunset : (given.config.finding declaration option).chosen? = none)
    (hvalue : given.convertDefault option (declaration.nameOf option) default = .ok value)
    (hwritten : option.type.ofValue? value = some next)
    (hsettled : ¬Relocates given declaration option next) :
    given.convertDefault option (declaration.nameOf option) (option.type.toValue next) =
      .ok (option.type.toValue next) := by
  cases hkind : option.fileKind? with
  | none => exact Surroundings.convertDefault_of_no_file hserves hkind _ _
  | some kind =>
      have hanchored : (option.type.toValue next).Throughout Value.IsAnchored := by
        by_contra hrelative
        exact hsettled ⟨hunset, hkind ▸ rfl, hrelative⟩
      rw [Surroundings.convertDefault_of_file hserves hkind] at hvalue ⊢
      exact FileConverter.placeDefault_of_written hvalue hwritten hanchored

/-- A field keeps what an injection has left it with. -/
theorem fieldAfter?_again (hserves : given.ServesBuiltIn option)
    (hnext : fieldAfter? given declaration option held held = some next)
    (hsettled : ¬Relocates given declaration option next) :
    fieldAfter? given declaration option next next = some next := by
  obtain ⟨value, hoffers, htaken⟩ := fieldAfter?_eq_some_iff.1 hnext
  have hagain := OptionDeclaration.take?_again htaken
  cases hoffers with
  | setting hcheck hchosen hsecure hvalue =>
      exact fieldAfter?_eq_some_iff.2 ⟨value, .setting hcheck hchosen hsecure hvalue, hagain⟩
  | default hcheck hunset hoptional hvalue =>
      by_cases hequals : (option.type.toValue held).equals value = true
      · -- The field has kept its content, so the second injection is the first one again.
        rw [OptionDeclaration.take?, if_pos hequals] at htaken
        cases htaken
        exact hnext
      · rw [OptionDeclaration.take?, if_neg hequals] at htaken
        have hdefault := convertDefault_of_settled hserves hunset hvalue htaken hsettled
        exact fieldAfter?_eq_some_iff.2 ⟨_, .default hcheck hunset hoptional hdefault,
          OptionDeclaration.take?_toValue htaken⟩

/-- A relative place is placed once more. -/
theorem fieldAfter?_of_relocates
    (hnext : fieldAfter? given declaration option held held = some next)
    (hrelocates : Relocates given declaration option next) {last : option.type.Carrier} :
    fieldAfter? given declaration option next next = some last ↔
      ∃ value, given.convertDefault option (declaration.nameOf option)
        (option.type.toValue next) = .ok value ∧ option.take? next value = some last := by
  obtain ⟨_, hoffers, -⟩ := fieldAfter?_eq_some_iff.1 hnext
  cases hoffers with
  | setting hcheck hchosen hsecure hvalue =>
      rw [hrelocates.unset] at hchosen
      cases hchosen
  | default hcheck hunset hoptional hvalue =>
      rw [fieldAfter?_eq_some_iff]
      refine exists_congr fun value => and_congr_left fun _ => ?_
      constructor
      · intro hagain
        cases hagain with
        | setting _ hchosen =>
            rw [hunset] at hchosen
            cases hchosen
        | default _ _ _ hagain => exact hagain
      · exact fun hagain => .default hcheck hunset hoptional hagain

theorem isSome_fieldAfter?_iff (hserves : given.ServesBuiltIn option)
    (hnext : fieldAfter? given declaration option held held = some next) :
    (fieldAfter? given declaration option next next).isSome = true ↔
      (Relocates given declaration option next →
        ∃ value, given.convertDefault option (declaration.nameOf option)
          (option.type.toValue next) = .ok value) := by
  constructor
  · intro hlast hrelocates
    obtain ⟨last, hlast⟩ := Option.isSome_iff_exists.1 hlast
    obtain ⟨value, hvalue, -⟩ := (fieldAfter?_of_relocates hnext hrelocates).1 hlast
    exact ⟨value, hvalue⟩
  · intro hplaced
    by_cases hrelocates : Relocates given declaration option next
    · obtain ⟨value, hvalue⟩ := hplaced hrelocates
      obtain ⟨_, hoffers, -⟩ := fieldAfter?_eq_some_iff.1 hnext
      have haccepts : option.type.Accepts value :=
        Surroundings.accepts_of_convertDefault hserves hoffers.sound hvalue
      obtain ⟨last, hlast⟩ := Option.isSome_iff_exists.1
        (OptionDeclaration.isSome_take? haccepts next)
      rw [(fieldAfter?_of_relocates hnext hrelocates).2 ⟨value, hvalue, hlast⟩]
      rfl
    · rw [fieldAfter?_again hserves hnext hrelocates]
      rfl

end Field

/-! ## Injections -/

/-- An injection of the same configuration into an object that it was injected into changes no
field but those of files that are not set and that hold relative places or templates.  These are
placed once more, below the start directory or the output directory, and nothing else can make the
second injection fail. -/
theorem injected_again (store : Store) (config : Configuration) (declaration : Declaration τ)
    (target : τ)
    (hserves : ∀ option ∈ declaration.options,
      (⟨config, store.registries⟩ : Surroundings).ServesBuiltIn option)
    (hfields : ∀ option ∈ declaration.options, ∃ get, option.IsField get)
    (hindependent : declaration.options.Pairwise OptionDeclaration.Independent)
    (hok : (store.inject config declaration target none).2.error? = none) :
    let given : Surroundings := ⟨config, store.registries⟩
    let first := store.inject config declaration target none
    let injected := first.2.reached.target
    let again := (first.1.inject config declaration injected none).2
    (again.error? = none ↔ ∀ option ∈ declaration.options, ∀ get, option.IsField get →
      Relocates given declaration option (get injected) →
        ∃ value, given.convertDefault option (declaration.nameOf option)
          (option.type.toValue (get injected)) = .ok value) ∧
    (again.error? = none → ∀ option ∈ declaration.options, ∀ get, option.IsField get →
      (¬Relocates given declaration option (get injected) →
        get again.reached.target = get injected) ∧
      (Relocates given declaration option (get injected) →
        ∃ value, given.convertDefault option (declaration.nameOf option)
            (option.type.toValue (get injected)) = .ok value ∧
          option.take? (get injected) value = some (get again.reached.target))) := by
  intro given first injected again
  have hregistries : first.1.registries = given.registries :=
    Store.registries_inject store config declaration target none
  have hgiven : store.registries = given.registries := rfl
  have hnext : ∀ option ∈ declaration.options, ∀ get, option.IsField get →
      fieldAfter? given declaration option (get target) (get target) = some (get injected) := by
    intro option hoption get hfield
    exact (fieldAfter?_inject hgiven hindependent hoption hfield hok :)
  constructor
  · apply (inject_ok_iff hregistries hindependent hfields).trans
    refine forall₂_congr fun option hoption => forall₂_congr fun get hfield => ?_
    exact isSome_fieldAfter?_iff (hserves option hoption) (hnext option hoption get hfield)
  · intro hagain option hoption get hfield
    have hheld := hnext option hoption get hfield
    have hlast := fieldAfter?_inject hregistries hindependent hoption hfield hagain
    constructor
    · intro hsettled
      have hkept := fieldAfter?_again (hserves option hoption) hheld hsettled
      exact (Option.some.inj (hkept.symm.trans hlast)).symm
    · intro hrelocates
      exact (fieldAfter?_of_relocates hheld hrelocates).1 hlast

end Injection

/-! ## A sample -/

namespace RepetitionSample

/-- An output file that may be missing. -/
def file : OptionDeclaration (Option Path × String) :=
  { OptionDeclaration.ofField "file" (.nullable (.element .path)) Prod.fst
      (fun path (pair : Option Path × String) => (path, pair.2)) with
    annotations := [.file .outputFile] }

def plain : OptionDeclaration (Option Path × String) :=
  .ofField "s" (.element .string) Prod.snd fun value pair => (pair.1, value)

def declaration : Declaration (Option Path × String) :=
  ⟨"", none, "", [file, plain]⟩

def store : Store :=
  .initial (.ofDisk (.ofWorkingDirectory []))

/-- The start directory and the output directory are those that are built in, and relative. -/
def config : Configuration :=
  { Configuration.empty "r" false 0 (.memory .empty) with
    settings := .ofSettings [("s", ⟨"b", .manual⟩)] }

def first : Store × InjectionResult (Option Path × String) :=
  store.inject config declaration (some ⟨"a.txt"⟩, "a") none

def again : InjectionResult (Option Path × String) :=
  (first.1.inject config declaration first.2.reached.target none).2

theorem builtIn : (⟨config, store.registries⟩ : Surroundings).BuiltIn :=
  ⟨rfl, rfl⟩

theorem exists_isField : ∀ option ∈ declaration.options, ∃ get, option.IsField get := by
  simp only [declaration, List.forall_mem_cons, List.not_mem_nil, false_implies, implies_true,
    and_true]
  exact ⟨⟨Prod.fst, _, rfl, fun _ _ => rfl⟩, ⟨Prod.snd, _, rfl, fun _ _ => rfl⟩⟩

theorem pairwise_independent : declaration.options.Pairwise OptionDeclaration.Independent :=
  List.pairwise_pair.2 (OptionDeclaration.independent_of_access rfl rfl (fun _ _ => rfl)
    (fun _ _ => rfl) fun _ _ _ => rfl)

theorem injected_again_sample :
    (∀ option ∈ declaration.options,
      (⟨config, store.registries⟩ : Surroundings).ServesBuiltIn option) ∧
    (∀ option ∈ declaration.options, ∃ get, option.IsField get) ∧
    declaration.options.Pairwise OptionDeclaration.Independent ∧
    first.2.error? = none ∧ again.error? = none ∧
    again.reached.target.2 = first.2.reached.target.2 := by
  have hserves : ∀ option ∈ declaration.options,
      (⟨config, store.registries⟩ : Surroundings).ServesBuiltIn option :=
    fun option _ => builtIn.serves option
  have hok : first.2.error? = none := by
    decide +kernel
  have hagain : again.error? = none := by
    decide +kernel
  obtain ⟨-, hfields⟩ := Injection.injected_again store config declaration (some ⟨"a.txt"⟩, "a")
    hserves exists_isField pairwise_independent hok
  obtain ⟨hkept, -⟩ := hfields hagain plain (by simp [declaration]) Prod.snd
    ⟨_, rfl, fun _ _ => rfl⟩
  exact ⟨hserves, exists_isField, pairwise_independent, hok, hagain,
    hkept fun hrelocates => nomatch hrelocates.isFile⟩

/-- The file is looked for one output directory deeper. -/
theorem file_moves_again :
    (⟨config, store.registries⟩ : Surroundings).BuiltIn ∧
    (∀ option ∈ declaration.options, ∃ get, option.IsField get) ∧
    declaration.options.Pairwise OptionDeclaration.Independent ∧
    first.2.error? = none ∧ again.error? = none ∧
    first.2.reached.target = (some ⟨"./output/a.txt"⟩, "b") ∧
    again.reached.target = (some ⟨"./output/./output/a.txt"⟩, "b") := by
  refine ⟨builtIn, exists_isField, pairwise_independent, ?_⟩
  decide +kernel

end RepetitionSample

end TypedOptions
