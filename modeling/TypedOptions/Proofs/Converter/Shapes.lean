import TypedOptions.Proofs.Value.Shapes
import TypedOptions.Registry

/-!
# What built-in converters yield

A built-in converter that is chosen for an element type yields values of its
shape, and what it complains about is of the user's making.  Rationals are
left out: reading one may leave the range of 64-bit integers.
-/

namespace TypedOptions

/-- What is left of a value that is not wanted: nothing, or a collection without items. -/
def Value.emptied : Value → Value
  | .collection _ => .collection []
  | _ => .absent

@[simp] theorem Value.emptied_emptied (value : Value) : value.emptied.emptied = value.emptied := by
  cases value <;> rfl

/-! ## Answers -/

/-- The outcome is right, or the user is told what is wrong with the configuration. -/
inductive Answers {α : Type} (right : α → Prop) : Except OptionError α → Prop where
  | ok {value : α} (hright : right value) : Answers right (.ok value)
  | fault (fault : ConfigurationFault) : Answers right (.error (.configuration fault))

namespace Answers

variable {α β ε : Type} {right : α → Prop} {wanted : β → Prop}

theorem mono {outcome : Except OptionError α} {weaker : α → Prop} (hright : Answers right outcome)
    (himp : ∀ value, right value → weaker value) : Answers weaker outcome := by
  cases hright with
  | ok hvalue => exact .ok (himp _ hvalue)
  | fault fault => exact .fault fault

theorem bind {first : Except OptionError α} {next : α → Except OptionError β}
    (hfirst : Answers right first) (hnext : ∀ value, right value → Answers wanted (next value)) :
    Answers wanted (first >>= next) := by
  cases hfirst with
  | ok hvalue => exact hnext _ hvalue
  | fault fault => exact .fault fault

theorem optional {condition : Prop} [Decidable condition] {step : Except OptionError PUnit}
    {next : PUnit → Except OptionError α} (hstep : Answers (fun _ => True) step)
    (hnext : Answers right (next ⟨⟩)) :
    Answers right (if condition then step >>= next else next ⟨⟩) := by
  split
  · exact hstep.bind fun _ _ => hnext
  · exact hnext

theorem right_of_eq_ok {outcome : Except OptionError α} {value : α}
    (houtcome : Answers right outcome) (hvalue : outcome = .ok value) : right value := by
  cases houtcome with
  | ok hright =>
      cases hvalue
      exact hright
  | fault fault => cases hvalue

theorem map {first : Except OptionError α} {change : α → β}
    (hfirst : Answers (fun value => wanted (change value)) first) :
    Answers wanted (first.map change) := by
  cases hfirst with
  | ok hvalue => exact .ok hvalue
  | fault fault => exact .fault fault

theorem mapError (reading : Except ε α) (change : ε → ConfigurationFault) :
    Answers (fun _ => True) (reading.mapError fun cause => .configuration (change cause)) := by
  cases reading with
  | ok value => exact .ok trivial
  | error cause => exact .fault (change cause)

theorem mapM {step : α → Except OptionError β} {items : List α}
    (hstep : ∀ item ∈ items, Answers wanted (step item)) :
    Answers (fun results => ∀ result ∈ results, wanted result) (items.mapM step) := by
  induction items with
  | nil => exact .ok (by simp)
  | cons item rest ih =>
      rw [List.mapM_cons]
      obtain ⟨hitem, hrest⟩ := List.forall_mem_cons.1 hstep
      refine hitem.bind fun first hfirst => (ih hrest).bind fun results hresults => ?_
      exact .ok (List.forall_mem_cons.2 ⟨hfirst, hresults⟩)

end Answers

/-! ## Plain values -/

namespace Plain

variable {type : ElementType}

/-- The types that are converted without an annotation. -/
def plainKeys : List TypeKey :=
  [.bool, .int, .long, .double, .string, .enumeration, .charset, .level, .pattern, .timeSpan]

/-- What was read has the right shape, and no arithmetic has failed on the way. -/
inductive ReadsAs (type : ElementType) : Except ValueFault Value → Prop where
  | read {value : Value} (haccepts : type.model.Accepts value) : ReadsAs type (.ok value)
  | faulty {fault : ValueFault} (hfault : fault ≠ .rational .overflow) : ReadsAs type (.error fault)

theorem readsAs_of_reading {α ε : Type} (reading : Except ε α) {change : α → Value}
    {wrap : ε → ValueFault} (haccepts : ∀ value, type.model.Accepts (change value))
    (hwrap : ∀ cause, wrap cause ≠ .rational .overflow) :
    ReadsAs type ((reading.map change).mapError wrap) := by
  cases reading with
  | ok value => exact .read (haccepts value)
  | error cause => exact .faulty (hwrap cause)

theorem readsAs_readElement (hkey : type.key ∈ plainKeys) (limit : Regex.SizeLimit)
    (text : String) : ReadsAs type (readElement limit text type) := by
  cases type with
  | bool =>
      simp only [readElement]
      split
      · exact .read rfl
      · exact .faulty nofun
  | int =>
      rw [readElement]
      exact readsAs_of_reading (readInt text) (fun _ => rfl) nofun
  | long =>
      rw [readElement]
      exact readsAs_of_reading (readLong text) (fun _ => rfl) nofun
  | double =>
      rw [readElement]
      exact readsAs_of_reading (Double.read text) (fun _ => rfl) nofun
  | string => exact .read rfl
  | enumeration constants =>
      simp only [readElement]
      split
      · rename_i hconstant
        exact .read (FieldModel.accepts_constant hconstant)
      · exact .faulty nofun
  | charset =>
      rw [readElement]
      exact readsAs_of_reading (Charset.ofName text) (fun _ => rfl) nofun
  | level =>
      simp only [readElement]
      split
      · exact .read rfl
      · exact .faulty nofun
  | pattern =>
      simp only [readElement]
      split
      · exact .read rfl
      · exact .faulty nofun
  | timeSpan =>
      rw [readElement]
      exact readsAs_of_reading (TimeSpan.read text) (fun _ => rfl) nofun
  | _ => simp [plainKeys, ElementType.key] at hkey

theorem answers_convert (hkey : type.key ∈ plainKeys) (limit : Regex.SizeLimit)
    (context : ConversionContext) (text : String) :
    Answers (OptionType.element type).Fits (convert limit context text (.element type)) := by
  have hreads := readsAs_readElement hkey limit text
  unfold convert
  split
  -- The types that are converted elsewhere come first.
  iterate 4
    rename_i htype
    cases htype
    simp [plainKeys, ElementType.key] at hkey
  · rename_i htype
    cases htype
  · rename_i htype
    cases htype
    split
    · rename_i value hread
      rw [hread] at hreads
      cases hreads with
      | read haccepts => exact .ok haccepts
    · rename_i hread
      rw [hread] at hreads
      cases hreads with
      | faulty hfault => exact absurd rfl hfault
    · exact .fault _

end Plain

/-! ## Integers and time spans within bounds -/

namespace ElementType

variable {type : ElementType}

theorem eq_of_integer (hkey : type.key ∈ AnnotationKind.integer.applicableTypes) :
    type = .int ∨ type = .long := by
  cases type <;> simp [key, AnnotationKind.applicableTypes] at hkey ⊢

theorem eq_of_timeSpan (hkey : type.key ∈ AnnotationKind.timeSpan.applicableTypes) :
    type = .int ∨ type = .long ∨ type = .timeSpan := by
  cases type <;> simp [key, AnnotationKind.applicableTypes] at hkey ⊢

theorem eq_of_file (hkey : type.key ∈ AnnotationKind.file.applicableTypes) :
    type = .path ∨ type = .pathTemplate := by
  cases type <;> simp [key, AnnotationKind.applicableTypes] at hkey ⊢

theorem eq_of_classes (hkey : type.key ∈ AnnotationKind.classes.applicableTypes) :
    (∃ bound?, type = .classRef bound?) ∨ ∃ interface, type = .factory interface := by
  cases type <;> simp [key, AnnotationKind.applicableTypes] at hkey ⊢

end ElementType

/-- What both conversions within bounds end with if the target is a 32-bit integer. -/
theorem Answers.narrow (context : ConversionContext) (text : String) (number : Int64) :
    Answers (OptionType.element .int).Fits
      (match toInt? number with
      | some value => pure (.int value)
      | none => throw (context.invalid text .tooLargeForInt)) := by
  cases toInt? number with
  | some value => exact .ok rfl
  | none => exact .fault _

theorem RangedInteger.answers_convert {type : ElementType}
    (hkey : type.key ∈ AnnotationKind.integer.applicableTypes) {context : ConversionContext}
    {range : LongRange} (hannotated : context.annotation? = some (.integer range))
    (text : String) :
    Answers (OptionType.element type).Fits (convert context text (.element type)) := by
  have hrange : rangeOf context = .ok range := by
    rw [rangeOf, hannotated]
  have hread := Answers.mapError (readLong text) fun cause =>
    .value text context.option (.integer cause)
  unfold convert
  rw [hrange]
  refine hread.bind fun number _ => ?_
  rcases ElementType.eq_of_integer hkey with rfl | rfl
  · exact Answers.optional (.fault _) (.narrow context text number)
  · exact Answers.optional (.fault _) (.ok rfl)

theorem RangedSpan.answers_convert {type : ElementType}
    (hkey : type.key ∈ AnnotationKind.timeSpan.applicableTypes) {context : ConversionContext}
    {rule : SpanAnnotation} (hannotated : context.annotation? = some (.timeSpan rule))
    (text : String) :
    Answers (OptionType.element type).Fits (convert context text (.element type)) := by
  have hread := Answers.mapError (readSpan rule.userUnit text) fun fault =>
    .value text context.option fault
  unfold convert
  rw [hannotated]
  refine hread.bind fun span _ => ?_
  rcases ElementType.eq_of_timeSpan hkey with rfl | rfl | rfl
  · exact Answers.optional (.fault _) (.narrow context text _)
  · exact Answers.optional (.fault _) (.ok rfl)
  · exact Answers.optional (.fault _) (.ok rfl)

/-! ## Classes -/

theorem Classes.fits_of_fault?_eq_none {type : ElementType}
    (hkey : type.key ∈ AnnotationKind.classes.applicableTypes) {entry : RegisteredClass}
    (hfault : fault? (.element type) entry = none) :
    (OptionType.element type).Fits (.classRef entry) := by
  rcases ElementType.eq_of_classes hkey with ⟨bound?, rfl⟩ | ⟨interface, rfl⟩
  · exact rfl
  · unfold fault? at hfault
    simp only [ite_eq_left_iff, reduceCtorEq, imp_false, Bool.not_eq_true,
      Bool.not_eq_false] at hfault
    obtain ⟨product, hproduct⟩ := Option.isSome_iff_exists.1 hfault
    exact FieldModel.accepts_factory ⟨entry, product, hproduct⟩

theorem Classes.answers_convert {type : ElementType}
    (hkey : type.key ∈ AnnotationKind.classes.applicableTypes) (catalog : ClassCatalog)
    (context : ConversionContext) (text : String) :
    Answers (OptionType.element type).Fits (convert catalog context text (.element type)) := by
  have hclass : (OptionType.element type).key = .classRef ∨
      (OptionType.element type).key = .factory := by
    rcases ElementType.eq_of_classes hkey with ⟨bound?, rfl⟩ | ⟨interface, rfl⟩
    · exact Or.inl rfl
    · exact Or.inr rfl
  unfold convert
  split
  · exact .fault _
  · rw [if_pos hclass]
    split
    · exact .fault _
    · rename_i hfault
      exact .ok (fits_of_fault?_eq_none hkey hfault)

/-! ## Files -/

namespace FileConverter

variable {converter : FileConverter} {context : ConversionContext} {kind : FileKind}

theorem answers_checkSafe (option : String) (path : Path) :
    Answers (fun _ => True) (checkSafe option path) := by
  unfold checkSafe
  cases pathFault? path with
  | none => exact .ok trivial
  | some fault => exact .fault _

theorem answers_place (converter : FileConverter) (context : ConversionContext)
    (kind : FileKind) (source? : Option OptionSource) (path : Path) :
    Answers (fun _ => True) (converter.place context kind source? path) := by
  unfold place
  simp only
  split
  · exact .fault _
  · exact .ok trivial

theorem answers_convert {type : ElementType}
    (hkey : type.key ∈ AnnotationKind.file.applicableTypes)
    (hannotated : context.annotation? = some (.file kind)) (text : String) :
    Answers (OptionType.element type).Fits (converter.convert context text (.element type)) := by
  have hsafe := answers_checkSafe context.option ⟨text⟩
  have hplace := converter.answers_place context kind context.source? ⟨text⟩
  have hkind : Answers (· = kind) (kindOf context) := by
    rw [kindOf_eq_ok_iff.2 hannotated]
    exact .ok rfl
  unfold convert
  refine hkind.bind fun other hother => ?_
  subst hother
  rcases ElementType.eq_of_file hkey with rfl | rfl
  · exact hsafe.optional (hplace.bind fun path _ => .ok rfl)
  · exact hsafe.optional (.ok rfl)

/-! ### Defaults of files -/

theorem placeDefault_of_disabled (hdisabled : (kind.isOutput && converter.outputDisabled) = true)
    (value : Value) :
    converter.placeDefault context kind value = .ok value.emptied := by
  cases value <;> simp [placeDefault, hdisabled, Value.emptied]

theorem placeDefaults_eq_mapM (items : List Value) :
    converter.placeDefaults context kind items =
      items.mapM (converter.placeDefault context kind) := by
  induction items with
  | nil => simp [placeDefaults, pure, Except.pure]
  | cons item rest ih => rw [placeDefaults, List.mapM_cons, ih]

theorem answers_placeDefaults {right : Value → Prop} {items : List Value}
    (hitems : ∀ item ∈ items, Answers right (converter.placeDefault context kind item)) :
    Answers (fun placed => ∀ item ∈ placed, right item)
      (converter.placeDefaults context kind items) := by
  rw [placeDefaults_eq_mapM]
  exact Answers.mapM hitems

/-- The element types have one shape each, so a path stays a path and a template a template. -/
theorem answers_placeDefault_element {type : ElementType} {value : Value}
    (henabled : (kind.isOutput && converter.outputDisabled) = false)
    (haccepts : type.model.Accepts value) :
    Answers type.model.Accepts (converter.placeDefault context kind value) := by
  cases value with
  | path path =>
      have htype : type = .path := by
        cases type with
        | path => rfl
        | _ => cases haccepts
      subst htype
      have hplace := converter.answers_place context kind none path
      simp only [placeDefault, henabled]
      exact .map (hplace.mono fun _ _ => rfl)
  | pathTemplate template =>
      have htype : type = .pathTemplate := by
        cases type with
        | pathTemplate => rfl
        | _ => cases haccepts
      subst htype
      simp only [placeDefault, henabled]
      exact .ok rfl
  | collection items => cases type <;> cases haccepts
  | _ =>
      simp only [placeDefault, henabled]
      exact .ok haccepts

theorem answers_placeDefault {type : FieldType} {value : Value}
    (henabled : (kind.isOutput && converter.outputDisabled) = false)
    (haccepts : type.Accepts value) :
    Answers type.Accepts (converter.placeDefault context kind value) := by
  induction type using FieldType.shape_induction generalizing value with
  | element type => exact answers_placeDefault_element henabled haccepts
  | nullable type ih =>
      rcases FieldType.accepts_nullable_iff.1 haccepts with rfl | hcontent
      · simp only [placeDefault, henabled]
        exact .ok haccepts
      · exact (ih hcontent).mono fun _ hplaced => FieldType.accepts_nullable_iff.2 (Or.inr hplaced)
  | collection type items hitems ih =>
      obtain ⟨values, rfl, hvalues⟩ := (FieldType.accepts_collection_iff hitems).1 haccepts
      have hplaced := answers_placeDefaults fun item hitem => ih (hvalues item hitem)
      simp only [placeDefault, henabled]
      refine .map (hplaced.mono fun placed hitem => ?_)
      exact (FieldType.accepts_collection_iff hitems).2 ⟨placed, rfl, hitem⟩

/-- A missing value needs no place. -/
theorem convertDefault_of_annotated (hannotated : context.annotation? = some (.file kind))
    (value : Value) :
    converter.convertDefault context value = converter.placeDefault context kind value := by
  have hkind := kindOf_eq_ok_iff.2 hannotated
  unfold convertDefault
  cases value with
  | absent => simp [placeDefault]
  | _ =>
      rw [hkind]
      rfl

/-- A default for output vanishes while output is disabled.  That is why the field has to accept
that there is no value, unless it holds a collection, which becomes empty. -/
theorem answers_placeDefault_of_optional {type : FieldType} {value : Value}
    (haccepts : type.Accepts value)
    (hoptional : kind.isOutput = true →
      type.isNullable = true ∨ type.optionType.collectionKind?.isSome = true) :
    Answers type.Accepts (converter.placeDefault context kind value) := by
  cases hdisabled : kind.isOutput && converter.outputDisabled with
  | false => exact answers_placeDefault hdisabled haccepts
  | true =>
      have houtput : kind.isOutput = true := (Bool.and_eq_true_iff.1 hdisabled).1
      rw [placeDefault_of_disabled hdisabled]
      apply Answers.ok
      rcases FieldType.collection_or_accepts_absent (hoptional houtput) haccepts with
        ⟨items, rfl⟩ | hmissing
      · exact FieldType.accepts_empty haccepts
      · unfold Value.emptied
        split
        · exact FieldType.accepts_empty haccepts
        · exact hmissing

end FileConverter

end TypedOptions
