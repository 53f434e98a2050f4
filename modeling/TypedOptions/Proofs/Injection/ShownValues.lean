import TypedOptions.Proofs.Converter.ShownValues
import TypedOptions.Proofs.Injection.Fields
import TypedOptions.Proofs.Text.Uppercase
import TypedOptions.Proofs.Value.RoundTrip

/-!
# Values of options that are read back

The items of a collection are shown with commas between them.  Their texts
stand apart when the shown text is cut, so the collection is read back item
by item, and none of its items is dropped, for they were told apart when the
collection was read first.
-/

namespace TypedOptions

/-! ## Elements -/

namespace Configuration

variable {config : Configuration} {resources : Resources} {type : ElementType}
  {annotation? : Option Annotation} {context : ConversionContext} {text : String} {value : Value}

/-- The built-in converter of an element reads a value again from the text it is shown with. -/
theorem recurs_convert (hregistered : (resources.catalogs config.registry).IsRegistered)
    (hcanonical : type.IsCanonical) (hadmits : type.Admits annotation?)
    (hcontext : context.annotation? = annotation?) {again : ConversionContext}
    (hagain : again.annotation? = annotation?)
    (h : (config.builtInConverter annotation? type.key).convert resources context text
      (.element type) = .ok value) :
    Recurs (fun shown => (config.builtInConverter annotation? type.key).convert resources again
      shown (.element type)) value := by
  cases annotation? with
  | none =>
      by_cases hkey : type.key ∈ AnnotationKind.classes.applicableTypes
      · rw [builtInConverter_classes hkey] at h ⊢
        exact Classes.recurs_convert hregistered h again
      · rw [builtInConverter_plain hkey] at h ⊢
        exact Plain.recurs_convert hcanonical h again
  | some sole =>
      rw [builtInConverter_annotated] at h ⊢
      cases sole with
      | integer range => exact RangedInteger.recurs_convert (hagain.trans hcontext.symm) h
      | timeSpan rule =>
          obtain ⟨rfl, huser⟩ := hadmits
          exact RangedSpan.recurs_convert hcontext hagain huser h
      | file kind => exact hadmits.elim
      | classes packages => exact Classes.recurs_convert hregistered h again

theorem reads_of_convert (hcanonical : type.IsCanonical) (hadmits : type.Admits annotation?)
    (hclass : type.key ∉ AnnotationKind.classes.applicableTypes)
    (hcontext : context.annotation? = annotation?)
    (h : (config.builtInConverter annotation? type.key).convert resources context text
      (.element type) = .ok value) :
    Reads resources.sizeLimit text type value := by
  cases annotation? with
  | none =>
      rw [builtInConverter_plain hclass] at h
      exact Plain.reads_of_convert hcanonical h
  | some sole =>
      rw [builtInConverter_annotated] at h
      cases sole with
      | integer range => exact RangedInteger.reads_of_convert resources.sizeLimit h
      | timeSpan rule =>
          obtain ⟨rfl, huser⟩ := hadmits
          exact RangedSpan.reads_of_convert resources.sizeLimit hcontext huser h
      | file kind => exact hadmits.elim
      | classes packages =>
          obtain ⟨-, -, hkey, -, -⟩ := Classes.convert_eq_ok_iff.1 h
          have happlicable : type.key = .classRef ∨ type.key = .factory := hkey
          simp [AnnotationKind.applicableTypes, happlicable] at hclass

end Configuration

/-! ## Collections -/

namespace Value

theorem equalItems_self {items : List Value} (hitems : ∀ item ∈ items, item.equals item = true) :
    equalItems items items = true := by
  induction items with
  | nil => rfl
  | cons item rest ih =>
      obtain ⟨hitem, hrest⟩ := List.forall_mem_cons.1 hitems
      rw [equalItems, hitem, ih hrest]
      rfl

end Value

namespace OptionDeclaration

theorem isPiece_of_mem_elementTexts {text piece : String} (hpiece : piece ∈ elementTexts text) :
    Text.IsPiece piece.toList := by
  unfold elementTexts at hpiece
  obtain ⟨trimmed, htrimmed, rfl⟩ := List.mem_map.1 hpiece
  obtain ⟨hmem, hne⟩ := List.mem_filter.1 htrimmed
  obtain ⟨cut, hcut, rfl⟩ := List.mem_map.1 hmem
  rw [String.toList_ofList]
  exact Text.isPiece_trim (by simpa using hne) (Text.not_mem_of_mem_splitAll hcut)

theorem elementTexts_of_isPiece {text : String} (hpiece : Text.IsPiece text.toList) :
    elementTexts text = [text] := by
  unfold elementTexts
  rw [Text.splitAll_of_not_mem hpiece.noComma]
  simp [hpiece.trim_eq, hpiece.nonempty]

theorem elementTexts_append_comma (before after : String) :
    elementTexts (before ++ "," ++ after) = elementTexts before ++ elementTexts after := by
  have htext : (before ++ "," ++ after).toList = before.toList ++ ',' :: after.toList := by simp
  unfold elementTexts
  rw [htext, Text.splitAll_append_separator, List.map_append, List.filter_append, List.map_append]

theorem elementTexts_blank (text : String) : elementTexts (" " ++ text) = elementTexts text := by
  have hblank : (Text.splitAll ',' (' ' :: text.toList)).map Text.trim =
      (Text.splitAll ',' text.toList).map Text.trim := by
    have hcut := Text.splitAll_append_of_not_mem text.toList (by decide : ',' ∉ [' '])
    rw [List.singleton_append] at hcut
    rw [hcut]
    cases hsplit : Text.splitAll ',' text.toList with
    | nil => exact absurd hsplit (Text.splitAll_ne_nil ',' _)
    | cons piece more =>
        have hspace : Text.isBlank ' ' = true := by decide
        simp [Text.trim_cons_of_isBlank piece hspace]
  have htext : (" " ++ text).toList = ' ' :: text.toList := by simp
  unfold elementTexts
  rw [htext, hblank]

/-- The blank behind a comma is trimmed away with the others. -/
theorem elementTexts_comma (before after : String) :
    elementTexts (before ++ ", " ++ after) = elementTexts before ++ elementTexts after := by
  have hsplit : before ++ ", " ++ after = before ++ "," ++ (" " ++ after) := by
    have hcomma : ", " = "," ++ " " := rfl
    simp only [hcomma, String.append_assoc]
  rw [hsplit, elementTexts_append_comma, elementTexts_blank]

theorem elementTexts_itemsText {items : List Value}
    (hpieces : ∀ item ∈ items, Text.IsPiece item.text.toList) :
    elementTexts (Value.itemsText items) = items.map Value.text := by
  induction items with
  | nil => rfl
  | cons item rest ih =>
      obtain ⟨hitem, hrest⟩ := List.forall_mem_cons.1 hpieces
      cases rest with
      | nil => exact elementTexts_of_isPiece hitem
      | cons next more =>
          rw [Value.itemsText, elementTexts_comma, ih hrest, elementTexts_of_isPiece hitem]
          rfl

variable {τ : Type} {option : OptionDeclaration τ}

/-- A text is cut into the same elements before and after it is brought to upper case. -/
theorem elementTexts_convertedText (text : String) :
    elementTexts (option.convertedText text) = (elementTexts text).map option.convertedText := by
  by_cases hupper : (option.toUppercase || option.optionType.elementType.isEnumeration) = true
  · have hchange : option.convertedText = Text.uppercase := funext fun _ => if_pos hupper
    rw [hchange, elementTexts_uppercase]
  · have hchange : option.convertedText = id := funext fun _ => if_neg hupper
    rw [hchange, List.map_id, id_eq]

/-- The items of a collection, of equal ones the first alone if they are to be distinct. -/
def collected (kind : CollectionKind) (items : List Value) : List Value :=
  if kind.dropsDuplicates then Value.dropEqual items else items

theorem collected_collected (kind : CollectionKind) (items : List Value) :
    collected kind (collected kind items) = collected kind items := by
  unfold collected
  split
  · exact Value.dropEqual_dropEqual items
  · rfl

theorem mem_of_mem_collected {kind : CollectionKind} {items : List Value} {item : Value}
    (hitem : item ∈ collected kind items) : item ∈ items := by
  unfold collected at hitem
  split at hitem
  · exact Value.mem_of_mem_dropEqual hitem
  · exact hitem

theorem convertText_of_collection {kind : CollectionKind} {element : OptionType}
    (htype : option.optionType = .collection kind element)
    (convert : String → OptionType → Conversion) (text : String) :
    option.convertText convert text =
      ((elementTexts text).mapM fun piece => convert piece element) >>= fun items =>
        .ok (.collection (collected kind items)) := by
  unfold convertText
  rw [htype]
  rfl

/-- An item of a collection is shown with a text that is cut out of the shown text as it is and
read as the item. -/
structure Returns (option : OptionDeclaration τ) (read : String → Conversion) (item : Value) :
    Prop where
  piece : Text.IsPiece item.text.toList
  kept : option.convertedText item.text = item.text
  recurs : Recurs read item

theorem recurs_collection {kind : CollectionKind} {element : OptionType}
    (htype : option.optionType = .collection kind element)
    {first again : String → OptionType → Conversion}
    (hreturns : ∀ piece item, Text.IsPiece piece.toList → first piece element = .ok item →
      option.Returns (again · element) item)
    {text : String} {value : Value}
    (h : option.convertText first (option.convertedText text) = .ok value) :
    Recurs (fun shown => option.convertText again (option.convertedText shown)) value := by
  rw [convertText_of_collection htype] at h
  obtain ⟨items, hitems, hvalue⟩ := bind_eq_ok_iff.1 h
  cases hvalue
  have hshown : ∀ item ∈ collected kind items, option.Returns (again · element) item := by
    intro item hitem
    obtain ⟨piece, hpiece, hread⟩ := exists_of_mem_mapM hitems (mem_of_mem_collected hitem)
    exact hreturns piece item (isPiece_of_mem_elementTexts hpiece) hread
  constructor
  · have htexts : elementTexts (option.convertedText (Value.itemsText (collected kind items))) =
        (collected kind items).map Value.text := by
      have hpieces : ∀ item ∈ collected kind items, Text.IsPiece item.text.toList :=
        fun item hitem => (hshown item hitem).piece
      rw [elementTexts_convertedText, elementTexts_itemsText hpieces, List.map_map]
      exact List.map_congr_left fun item hitem => (hshown item hitem).kept
    have hread : ((collected kind items).map Value.text).mapM (fun piece => again piece element) =
        .ok (collected kind items) :=
      mapM_map_eq_ok fun item hitem => (hshown item hitem).recurs.again
    rw [convertText_of_collection htype, Value.text, htexts, hread]
    exact congrArg (fun kept => Except.ok (Value.collection kept)) (collected_collected kind items)
  · rw [Value.equals]
    exact Value.equalItems_self fun item hitem => (hshown item hitem).recurs.same

end OptionDeclaration

/-! ## Options -/

section Converted

variable {τ : Type} {given : Surroundings} {option : OptionDeclaration τ}

theorem Surroundings.outcome_convert_of_allowed (hallowed : option.allowed = []) (name : String)
    (setting : FoundValue) :
    (given.convert option name none setting).outcome =
      option.convertText ((given.converter option).convert given.registries.resources
        (context option name setting.source?)) (option.convertedText setting.value) := by
  rw [outcome_convert]
  simp [OptionDeclaration.textFault?, hallowed]

end Converted

/-- Upper case leaves the constants alone, if there are any. -/
def ElementType.IsUppercase : ElementType → Prop
  | .enumeration constants =>
      ∀ constant ∈ constants.constants, Text.uppercase constant = constant
  | _ => True

section Shown

variable {τ : Type} {option : OptionDeclaration τ} {given : Surroundings} {type : ElementType}
  {annotation? : Option Annotation} {text : String} {value : Value}

/-- Bringing the shown text to upper case changes neither constants nor anything else. -/
theorem OptionDeclaration.convertedText_text (htoUppercase : option.toUppercase = false)
    (htype : option.optionType.elementType = .element type) (huppercase : type.IsUppercase)
    (hreads : type.key ∈ AnnotationKind.classes.applicableTypes ∨
      Reads given.registries.sizeLimit text type value) :
    option.convertedText value.text = value.text := by
  unfold convertedText
  rw [htype, htoUppercase]
  rcases hreads with hclass | hreads
  · rcases ElementType.eq_of_classes hclass with ⟨bound?, rfl⟩ | ⟨interface, rfl⟩
    · rfl
    · rfl
  · cases hreads with
    | constant hconstant => exact huppercase _ hconstant
    | _ => rfl

theorem Surroundings.recurs_option
    (hregistered : (given.registries.catalogs given.config.registry).IsRegistered)
    (hcanonical : type.IsCanonical) (hadmits : type.Admits option.annotations.head?)
    (hchosen : given.converter option =
      given.config.builtInConverter option.annotations.head? type.key)
    (hallowed : option.allowed = []) (htoUppercase : option.toUppercase = false)
    (huppercase : type.IsUppercase)
    (htype : option.optionType = .element type ∨
      type.key ∉ AnnotationKind.classes.applicableTypes ∧
        ∃ kind, option.optionType = .collection kind (.element type))
    {name : String} {setting : FoundValue} (source? : Option OptionSource)
    (h : (given.convert option name none setting).outcome = .ok value) :
    Recurs (fun shown => (given.convert option name none ⟨shown, source?⟩).outcome) value := by
  simp only [outcome_convert_of_allowed hallowed] at h ⊢
  rw [hchosen] at h ⊢
  rcases htype with htype | ⟨hclass, kind, htype⟩
  · have helement : option.optionType.elementType = .element type := by
      rw [htype]
      rfl
    have hsole : ∀ read text, option.convertText read text = read text (.element type) := by
      intro read text
      unfold OptionDeclaration.convertText
      rw [htype]
      rfl
    simp only [hsole] at h ⊢
    have hreads : type.key ∈ AnnotationKind.classes.applicableTypes ∨
        Reads given.registries.sizeLimit (option.convertedText setting.value) type value := by
      by_cases hclass : type.key ∈ AnnotationKind.classes.applicableTypes
      · exact Or.inl hclass
      · exact Or.inr (Configuration.reads_of_convert hcanonical hadmits hclass rfl h)
    have hrecurs := Configuration.recurs_convert hregistered hcanonical hadmits rfl
      (rfl : (context option name source?).annotation? = _) h
    refine ⟨?_, hrecurs.same⟩
    rw [OptionDeclaration.convertedText_text htoUppercase helement huppercase hreads]
    exact hrecurs.again
  · have helement : option.optionType.elementType = .element type := by
      rw [htype]
      rfl
    refine OptionDeclaration.recurs_collection htype ?_ h
    intro piece item hpiece hitem
    have hreads := Configuration.reads_of_convert hcanonical hadmits hclass rfl hitem
    exact {
      piece := hreads.isPiece hpiece
      kept := OptionDeclaration.convertedText_text htoUppercase helement huppercase (Or.inr hreads)
      recurs := Configuration.recurs_convert hregistered hcanonical hadmits rfl rfl hitem }

end Shown

/-- Whatever an element or a collection of elements was read from, it is read again from the text it
is shown with.  The catalog is one that registrations have led to. -/
theorem shown_values_read_back (given : Surroundings)
    (hregistered : (given.registries.catalogs given.config.registry).IsRegistered)
    (type : ElementType) (hcanonical : type.IsCanonical) (annotation? : Option Annotation)
    (hadmits : type.Admits annotation?) :
    (∀ (context again : ConversionContext) (text : String) (value : Value),
      context.annotation? = annotation? → again.annotation? = annotation? →
      (given.config.builtInConverter annotation? type.key).convert given.registries.resources
        context text (.element type) = .ok value →
      Recurs (fun shown => (given.config.builtInConverter annotation? type.key).convert
        given.registries.resources again shown (.element type)) value) ∧
    ∀ (τ : Type) (option : OptionDeclaration τ) (name : String) (setting : FoundValue)
      (source? : Option OptionSource) (value : Value),
      option.annotations.head? = annotation? →
      given.converter option = given.config.builtInConverter annotation? type.key →
      option.allowed = [] → option.toUppercase = false → type.IsUppercase →
      (option.optionType = .element type ∨
        type.key ∉ AnnotationKind.classes.applicableTypes ∧
          ∃ kind, option.optionType = .collection kind (.element type)) →
      (given.convert option name none setting).outcome = .ok value →
      Recurs (fun shown => (given.convert option name none ⟨shown, source?⟩).outcome) value := by
  constructor
  · intro context again text value hcontext hagain h
    exact Configuration.recurs_convert hregistered hcanonical hadmits hcontext hagain h
  · intro τ option name setting source? value hannotations hchosen hallowed htoUppercase huppercase
      htype h
    subst hannotations
    exact Surroundings.recurs_option hregistered hcanonical hadmits hchosen hallowed htoUppercase
      huppercase htype source? h

/-! ## A sample -/

namespace ShownSample

def square : RegisteredClass :=
  ⟨"shapes.Square", ["shapes.Shape"], []⟩

def given : Surroundings where
  config := .empty "r" false 0 (.memory .empty)
  registries :=
    (Registries.empty fun _ => true).set "r" ((Registry.initial "r").registerClass square)

def shape : ElementType :=
  .classRef (some "shapes.Shape")

def context : ConversionContext :=
  ⟨"shape", some (.classes ["shapes"]), some .manual⟩

def rule : SpanAnnotation :=
  ⟨.seconds, .minutes, .all⟩

/-- Time limits, of which bare ones are in minutes and each counts once. -/
def limits : OptionDeclaration (FieldType.set (.element .timeSpan)).Carrier :=
  { OptionDeclaration.ofField "limits" (.set (.element .timeSpan)) id fun limits _ => limits with
    annotations := [.timeSpan rule] }

theorem optionType_limits : limits.optionType = .collection .set (.element .timeSpan) :=
  rfl

theorem registry_given : given.registry = (Registry.initial "r").registerClass square :=
  (Registries.get_set _ _ _ _).trans (if_pos rfl)

theorem builtIn_given : given.BuiltIn where
  overrides := rfl
  converters := by
    rw [registry_given]
    rfl

theorem isRegistered_given : (given.registries.catalogs given.config.registry).IsRegistered := by
  have hcatalog : given.registries.catalogs given.config.registry =
      ClassCatalog.register ∅ square := congrArg Registry.catalog registry_given
  rw [hcatalog]
  exact .register .empty square

theorem convert_square :
    (given.config.builtInConverter (some (.classes ["shapes"])) shape.key).convert
      given.registries.resources context "Square" (.element shape) = .ok (.classRef square) := by
  rw [Configuration.builtInConverter_annotated]
  have hfound : (given.registries.catalogs "r").findFirst?
      (Classes.candidates ["shapes"] "Square") = some square := by
    decide +kernel
  have hfault : Classes.fault? (.element shape) square = none := by
    decide +kernel
  have hsquare : Classes.convert (given.registries.catalogs "r") context "Square"
      (.element shape) = .ok (.classRef square) :=
    Classes.convert_eq_ok_iff.2 ⟨square, hfound, Or.inl rfl, hfault, rfl⟩
  exact hsquare

theorem converter_limits :
    given.converter limits = given.config.builtInConverter (some (.timeSpan rule)) .timeSpan :=
  builtIn_given.converter_eq _ _

theorem convert_limits :
    (given.convert limits "limits" none ⟨" 5, +05min ,,007 s", some .manual⟩).outcome =
      .ok (.collection [.timeSpan ⟨5, .minutes⟩, .timeSpan ⟨7, .seconds⟩]) := by
  have htexts : OptionDeclaration.elementTexts (limits.convertedText " 5, +05min ,,007 s") =
      ["5", "+05min", "007 s"] := by
    decide +kernel
  have hread : ∀ text span, (RangedSpan.readSpan rule.userUnit text).toOption = some span →
      (given.converter limits).convert given.registries.resources
        (Surroundings.context limits "limits" (some .manual)) text (.element .timeSpan) =
          .ok (.timeSpan span) := by
    intro text span hspan
    have hannotated : (Surroundings.context limits "limits" (some .manual)).annotation? =
        some (.timeSpan rule) := rfl
    have hcontains : rule.range.contains (span.asUnit rule.codeUnit) = true := by
      simp [rule, LongRange.contains, LongRange.all, Int64.minValue_le, Int64.le_maxValue]
    rw [converter_limits, Configuration.builtInConverter_annotated]
    exact (RangedSpan.convert_eq_ok_iff hannotated).2
      ⟨span, toOption_eq_some_iff.1 hspan, hcontains, rfl⟩
  have hfirst := hread "5" ⟨5, .minutes⟩ (by decide +kernel)
  have hsecond := hread "+05min" ⟨5, .minutes⟩ (by decide +kernel)
  have hthird := hread "007 s" ⟨7, .seconds⟩ (by decide +kernel)
  rw [Surroundings.outcome_convert_of_allowed rfl,
    OptionDeclaration.convertText_of_collection optionType_limits, htexts]
  simp only [List.mapM_cons, List.mapM_nil, hfirst, hsecond, hthird]
  rfl

theorem shown_values_read_back_sample :
    (given.config.builtInConverter (some (.classes ["shapes"])) shape.key).convert
        given.registries.resources context "shapes.Square" (.element shape) =
          .ok (.classRef square) ∧
      (given.convert limits "limits" none ⟨"5min, 7s", some .manual⟩).outcome =
        .ok (.collection [.timeSpan ⟨5, .minutes⟩, .timeSpan ⟨7, .seconds⟩]) := by
  have hminutes : rule.userUnit ∈ TimeUnit.readable := by decide
  have hclass := (shown_values_read_back given isRegistered_given shape trivial
    (some (.classes ["shapes"])) trivial).1 context context "Square" (.classRef square) rfl rfl
    convert_square
  have hlimits := (shown_values_read_back given isRegistered_given .timeSpan trivial
    (some (.timeSpan rule)) ⟨rfl, hminutes⟩).2 _ limits "limits" _ (some .manual) _ rfl
    converter_limits rfl rfl trivial (Or.inr ⟨by decide, .set, optionType_limits⟩) convert_limits
  exact ⟨hclass.again, hlimits.again⟩

end ShownSample

end TypedOptions
