import TypedOptions.Proofs.Injection.Contents
import TypedOptions.Proofs.Injection.Overwriting

/-!
# Collections that are injected

The text of a collection is cut into pieces, and the first piece that is not
converted ends the injection.  Otherwise the values of all pieces are put into
the field.  A field that holds an equal collection already keeps it, spelled as
it was.
-/

namespace TypedOptions

/-! ## What built-in converters yield -/

section BuiltIn

variable {context : ConversionContext} {text : String} {type : ElementType} {value : Value}

theorem Plain.accepts_of_convert {limit : Regex.SizeLimit}
    (h : convert limit context text (.element type) = .ok value) :
    type.model.Accepts value := by
  by_cases hkey : type.key ∈ plainKeys
  · exact (answers_convert hkey limit context text).right_of_eq_ok h
  · cases type with
    | rational =>
        have hread := (readElement_of_convert h).1
        simp only [readElement] at hread
        obtain ⟨content, -, rfl⟩ := map_eq_ok_iff.1 (mapError_eq_ok_iff.1 hread)
        rfl
    | path => cases h
    | pathTemplate => cases h
    | classRef bound? => cases h
    | factory interface => cases h
    | _ => simp [plainKeys, ElementType.key] at hkey

theorem RangedInteger.accepts_of_convert (h : convert context text (.element type) = .ok value) :
    type.model.Accepts value := by
  obtain ⟨-, number, -, -, -, hvalue⟩ := convert_element_eq_ok_iff.1 h
  cases type with
  | int =>
      obtain ⟨content, -, rfl⟩ := Option.map_eq_some_iff.1 hvalue
      rfl
  | long =>
      cases hvalue
      rfl
  | _ => cases hvalue

theorem RangedSpan.accepts_of_convert (h : convert context text (.element type) = .ok value) :
    type.model.Accepts value := by
  cases hannotated : context.annotation? with
  | none =>
      rw [convert, hannotated] at h
      cases h
  | some sole =>
      cases sole with
      | timeSpan rule =>
          by_cases hkey : type.key ∈ AnnotationKind.timeSpan.applicableTypes
          · exact (answers_convert hkey hannotated text).right_of_eq_ok h
          · rw [convert, hannotated] at h
            obtain ⟨span, -, hrest⟩ := bind_eq_ok_iff.1 h
            dsimp only at hrest
            cases type with
            | int => simp [AnnotationKind.applicableTypes, ElementType.key] at hkey
            | long => simp [AnnotationKind.applicableTypes, ElementType.key] at hkey
            | timeSpan => simp [AnnotationKind.applicableTypes, ElementType.key] at hkey
            | _ =>
                split at hrest <;> cases hrest
      | _ =>
          rw [convert, hannotated] at h
          cases h

theorem Classes.accepts_of_convert {catalog : ClassCatalog}
    (h : convert catalog context text (.element type) = .ok value) : type.model.Accepts value := by
  by_cases hkey : type.key ∈ AnnotationKind.classes.applicableTypes
  · exact (answers_convert hkey catalog context text).right_of_eq_ok h
  · obtain ⟨entry, -, hclass, -⟩ := convert_eq_ok_iff.1 h
    have hkinds : type.key = .classRef ∨ type.key = .factory := hclass
    simp [AnnotationKind.applicableTypes, hkinds] at hkey

theorem FileConverter.accepts_of_convert {converter : FileConverter}
    (h : converter.convert context text (.element type) = .ok value) :
    type.model.Accepts value := by
  obtain ⟨kind, hkind, hrest⟩ := bind_eq_ok_iff.1 h
  by_cases hkey : type.key ∈ AnnotationKind.file.applicableTypes
  · exact (answers_convert hkey (kindOf_eq_ok_iff.1 hkind) text).right_of_eq_ok h
  · cases type with
    | path => simp [AnnotationKind.applicableTypes, ElementType.key] at hkey
    | pathTemplate => simp [AnnotationKind.applicableTypes, ElementType.key] at hkey
    | _ => cases hrest

/-- Whatever a built-in converter yields has the shape that it was asked for. -/
theorem Converter.accepts_of_convert {converter : Converter}
    (hbuiltIn : converter.isBuiltIn = true) {resources : Resources}
    (h : converter.convert resources context text (.element type) = .ok value) :
    type.model.Accepts value := by
  cases converter with
  | plain => exact Plain.accepts_of_convert h
  | integer => exact RangedInteger.accepts_of_convert h
  | timeSpan => exact RangedSpan.accepts_of_convert h
  | classes registry => exact Classes.accepts_of_convert h
  | files converter => exact FileConverter.accepts_of_convert h
  | custom converter => cases hbuiltIn

end BuiltIn

/-! ## Texts of collections -/

variable {τ : Type}

/-- A bound changes the type of the items, but not which values they are. -/
theorem OptionType.exists_of_withBound_eq_collection {type : OptionType} {bound : String}
    {kind : CollectionKind} {element : ElementType}
    (htype : type.withBound bound = .collection kind (.element element)) :
    ∃ other, type = .collection kind (.element other) ∧ other.model = element.model := by
  cases type with
  | element type => cases type <;> cases htype
  | collection kind items =>
      cases items with
      | collection kind items => cases htype
      | element type =>
          cases type <;>
            · cases htype
              exact ⟨_, rfl, rfl⟩

namespace OptionDeclaration

variable {option : OptionDeclaration τ}

theorem exists_of_optionType_eq_collection {kind : CollectionKind} {element : ElementType}
    (htype : option.optionType = .collection kind (.element element)) :
    ∃ other, option.type.optionType = .collection kind (.element other) ∧
      other.model = element.model := by
  unfold optionType at htype
  cases hbound : option.bound? with
  | none =>
      rw [hbound] at htype
      exact ⟨element, htype, rfl⟩
  | some bound =>
      rw [hbound] at htype
      exact OptionType.exists_of_withBound_eq_collection htype

theorem elementTexts_append_blank {piece : String} (hpiece : Text.IsPiece piece.toList) :
    elementTexts (piece ++ " ") = [piece] := by
  have htext : (piece ++ " ").toList = piece.toList ++ [' '] := by simp
  have hcomma : ',' ∉ piece.toList ++ [' '] := by
    simpa using hpiece.noComma
  have htrim : Text.trim (piece.toList ++ [' ']) = piece.toList := by
    rw [Text.trim_append_of_isBlank _ (by decide), hpiece.trim_eq]
  unfold elementTexts
  rw [htext, Text.splitAll_of_not_mem hcomma]
  simp [htrim, hpiece.nonempty]

/-- Pieces that are joined with commas and blanks come apart again. -/
theorem elementTexts_intercalate {pieces : List String}
    (hpieces : ∀ piece ∈ pieces, Text.IsPiece piece.toList) :
    elementTexts (" , ".intercalate pieces) = pieces := by
  induction pieces with
  | nil => rfl
  | cons piece rest ih =>
      obtain ⟨hpiece, hrest⟩ := List.forall_mem_cons.1 hpieces
      cases rest with
      | nil =>
          rw [String.intercalate_singleton]
          exact elementTexts_of_isPiece hpiece
      | cons next more =>
          have hsplit : piece ++ " , " ++ " , ".intercalate (next :: more) =
              piece ++ " " ++ "," ++ (" " ++ " , ".intercalate (next :: more)) := by
            have hseparator : " , " = " " ++ "," ++ " " := rfl
            simp only [hseparator, String.append_assoc]
          rw [String.intercalate_cons_cons, hsplit, elementTexts_append_comma,
            elementTexts_append_blank hpiece, elementTexts_blank, ih hrest]
          rfl

end OptionDeclaration

/-! ## Injections of collections -/

/-- The value of a single piece of the text of a setting. -/
def Surroundings.convertPiece (given : Surroundings) (declaration : Declaration τ)
    (option : OptionDeclaration τ) (setting : FoundValue) (piece : String) : Conversion :=
  (given.converter option).convert given.registries.resources
    (context option (declaration.nameOf option) setting.source?) piece
    option.optionType.elementType

namespace OptionDeclaration

/-- The pieces of the text of a setting, after it has been brought to upper case if it has to. -/
def settingPieces (option : OptionDeclaration τ) (setting : FoundValue) : List String :=
  elementTexts (option.convertedText setting.value)

end OptionDeclaration

namespace Injection

open OptionDeclaration (collected)

/-- The setting is what the option is converted from: nothing is wrong with the declaration, and
nothing forbids the setting or its text. -/
structure Converts (given : Surroundings) (declaration : Declaration τ)
    (option : OptionDeclaration τ) (setting : FoundValue) (expression? : Option Regex) : Prop where
  checked : option.check given.registries.sizeLimit (declaration.nameOf option) = .ok expression?
  chosen : (given.config.finding declaration option).chosen? = some setting
  secure : given.registry.isSecure = true → option.isSecure = true
  unrestricted : option.textFault? expression? setting.value = none

section Collection

variable {given : Surroundings} {declaration : Declaration τ} (defaults? : Option τ)
  {option : OptionDeclaration τ} {setting : FoundValue} {expression? : Option Regex}
  {kind : CollectionKind} {element : ElementType} (injection : Injection τ)

theorem Converts.outcome_conversion
    (hconverts : Converts given declaration option setting expression?)
    (htype : option.optionType = .collection kind (.element element)) :
    (injection.conversion given declaration defaults? option expression?).outcome =
      ((option.settingPieces setting).mapM (given.convertPiece declaration option setting)).map
        fun items => some (.collection (collected kind items)) := by
  have hinsecure : (!option.isSecure && given.registry.isSecure) = false := by
    cases hregistry : given.registry.isSecure with
    | false => exact Bool.and_false _
    | true =>
        rw [hconverts.secure hregistry]
        rfl
  have hpiece : given.convertPiece declaration option setting = fun piece =>
      (given.converter option).convert given.registries.resources
        (Surroundings.context option (declaration.nameOf option) setting.source?) piece
        (.element element) := by
    funext piece
    unfold Surroundings.convertPiece
    rw [htype]
    rfl
  unfold conversion Surroundings.value?
  rw [hconverts.chosen, hpiece]
  dsimp only
  rw [if_neg (by simp [hinsecure]), outcome_map,
    Surroundings.outcome_convert, hconverts.unrestricted,
    OptionDeclaration.convertText_of_collection htype]
  unfold OptionDeclaration.settingPieces
  generalize List.mapM (m := Except OptionError) _ _ = read
  cases read <;> rfl

theorem Converts.error?_of_mapM (hconverts : Converts given declaration option setting expression?)
    (htype : option.optionType = .collection kind (.element element)) {error : OptionError}
    (hread : (option.settingPieces setting).mapM (given.convertPiece declaration option setting) =
      .error error) :
    (injection.injectOption given declaration defaults? option).error? = some error := by
  rw [injectOption_of_check_eq_ok _ _ _ _ _ hconverts.checked,
    hconverts.outcome_conversion defaults? injection htype, hread]
  rfl

theorem accepts_of_mapM (htype : option.optionType = .collection kind (.element element))
    (hbuiltIn : (given.converter option).isBuiltIn = true) {items : List Value}
    (hread : (option.settingPieces setting).mapM (given.convertPiece declaration option setting) =
      .ok items) :
    ∀ item ∈ items, element.model.Accepts item := by
  intro item hitem
  obtain ⟨piece, -, hpiece⟩ := exists_of_mem_mapM hread hitem
  unfold Surroundings.convertPiece at hpiece
  rw [htype] at hpiece
  exact Converter.accepts_of_convert hbuiltIn hpiece

/-- Where all pieces are converted, their values are written unless the field holds them. -/
theorem Converts.settled_of_mapM (hconverts : Converts given declaration option setting expression?)
    {get : τ → option.type.Carrier} {set : option.type.Carrier → τ → τ}
    (haccess : option.access = .field get set)
    (htype : option.optionType = .collection kind (.element element))
    (hbuiltIn : (given.converter option).isBuiltIn = true) {items : List Value}
    (hread : (option.settingPieces setting).mapM (given.convertPiece declaration option setting) =
      .ok items) :
    (injection.injectOption given declaration defaults? option).error? = none ∧
      ((option.type.toValue (get injection.target)).equals
            (.collection (collected kind items)) = true ∧
          (injection.injectOption given declaration defaults? option).reached.target =
            injection.target ∨
        ∃ content, option.type.ofValue? (.collection (collected kind items)) = some content ∧
          (injection.injectOption given declaration defaults? option).reached.target =
            set content injection.target) := by
  have hfits : option.optionType.Fits (.collection (collected kind items)) := by
    rw [htype]
    exact ⟨_, rfl, fun item hitem => accepts_of_mapM htype hbuiltIn hread item
      (OptionDeclaration.mem_of_mem_collected hitem)⟩
  obtain ⟨content, hcontent⟩ :=
    Option.isSome_iff_exists.1 (OptionDeclaration.accepts_of_fits hfits)
  have hvalue : option.type.ofValue? (.collection (collected kind items)) = some content := hcontent
  rw [injectOption_of_check_eq_ok _ _ _ _ _ hconverts.checked,
    hconverts.outcome_conversion defaults? injection htype, hread,
    OptionDeclaration.read?_of_access haccess]
  have hstore := settled?_store haccess (declaration.nameOf option)
    (.collection (collected kind items)) (some (option.type.toValue (get injection.target)))
    (injection.afterConversion given declaration defaults? option expression?)
  rw [hvalue, Option.any_some] at hstore
  split at hstore
  · rename_i hequals
    obtain ⟨hok, htarget, -⟩ := InjectionResult.settled?_eq_some_iff.1 hstore
    exact ⟨hok, Or.inl ⟨hequals, htarget⟩⟩
  · obtain ⟨hok, htarget, -⟩ := InjectionResult.settled?_eq_some_iff.1 hstore
    exact ⟨hok, Or.inr ⟨content, hvalue, htarget⟩⟩

theorem Converts.error?_eq_some_iff
    (hconverts : Converts given declaration option setting expression?)
    {get : τ → option.type.Carrier} {set : option.type.Carrier → τ → τ}
    (haccess : option.access = .field get set)
    (htype : option.optionType = .collection kind (.element element))
    (hbuiltIn : (given.converter option).isBuiltIn = true) {error : OptionError} :
    (injection.injectOption given declaration defaults? option).error? = some error ↔
      (option.settingPieces setting).mapM (given.convertPiece declaration option setting) =
        .error error := by
  constructor
  · intro herror
    cases hread : (option.settingPieces setting).mapM
        (given.convertPiece declaration option setting) with
    | error other =>
        have hother := hconverts.error?_of_mapM defaults? injection htype hread
        rw [herror] at hother
        cases hother
        rfl
    | ok values =>
        have hnone := (hconverts.settled_of_mapM defaults? injection haccess htype hbuiltIn hread).1
        rw [herror] at hnone
        cases hnone
  · exact hconverts.error?_of_mapM defaults? injection htype

/-- A field holds the values of the pieces, or else it has kept a collection that equals them. -/
theorem Converts.holds_of_mapM (hconverts : Converts given declaration option setting expression?)
    {get : τ → option.type.Carrier} {set : option.type.Carrier → τ → τ}
    (haccess : option.access = .field get set)
    (hlawful : ∀ content target, get (set content target) = content)
    (htype : option.optionType = .collection kind (.element element))
    (horder : option.type.Orderable) (hbuiltIn : (given.converter option).isBuiltIn = true)
    {items : List Value}
    (hread : (option.settingPieces setting).mapM (given.convertPiece declaration option setting) =
      .ok items) :
    option.type.Holds
        (get (injection.injectOption given declaration defaults? option).reached.target) items ∨
      ¬option.type.leaf.IsExact ∧
        (injection.injectOption given declaration defaults? option).reached.target =
          injection.target ∧
        (option.type.toValue (get injection.target)).equals
          (.collection (collected kind items)) = true := by
  obtain ⟨other, hother, hmodel⟩ := OptionDeclaration.exists_of_optionType_eq_collection htype
  have haccepts : ∀ item ∈ items, other.model.Accepts item := by
    rw [hmodel]
    exact accepts_of_mapM htype hbuiltIn hread
  obtain ⟨-, ⟨hequals, htarget⟩ | ⟨content, hcontent, htarget⟩⟩ :=
    hconverts.settled_of_mapM defaults? injection haccess htype hbuiltIn hread
  · rw [htarget]
    by_cases hexact : option.type.leaf.IsExact
    · exact Or.inl (FieldType.holds_of_toValue hother haccepts
        (FieldType.eq_toValue_of_equals hexact _ hequals).symm)
    · exact Or.inr ⟨hexact, rfl, hequals⟩
  · rw [htarget, hlawful]
    exact Or.inl (FieldType.holds_of_ofValue? hother horder haccepts hcontent)

/-- Texts are their own values. -/
theorem mapM_strings (declaration : Declaration τ) (hplain : given.converter option = .plain)
    (htype : option.optionType = .collection kind (.element .string))
    (hupper : option.toUppercase = false) {strings : List String}
    (hstrings : ∀ string ∈ strings, Text.IsPiece string.toList)
    (hvalue : setting.value = " , ".intercalate strings) :
    (option.settingPieces setting).mapM (given.convertPiece declaration option setting) =
      .ok (strings.map .string) := by
  have hpieces : option.settingPieces setting = strings := by
    unfold OptionDeclaration.settingPieces OptionDeclaration.convertedText
    rw [hupper, htype, hvalue]
    exact OptionDeclaration.elementTexts_intercalate hstrings
  rw [hpieces, mapM_eq_ok_iff, List.forall₂_map_right_iff, List.forall₂_same]
  intro string _
  unfold Surroundings.convertPiece
  rw [hplain, htype]
  rfl

end Collection

/-- The injection of a collection fails with the error of the first of its pieces that is not
converted.  Otherwise the field holds the values of the pieces in the way of its type; only a
collection that equals theirs stays as it was spelled. -/
theorem collections_injected (given : Surroundings) (declaration : Declaration τ)
    (defaults? : Option τ) (option : OptionDeclaration τ) {get : τ → option.type.Carrier}
    {set : option.type.Carrier → τ → τ} (haccess : option.access = .field get set)
    (hlawful : ∀ content target, get (set content target) = content) {kind : CollectionKind}
    {type : OptionType} (htype : option.optionType = .collection kind type)
    (horder : option.type.Orderable) (hbuiltIn : (given.converter option).isBuiltIn = true)
    {setting : FoundValue} {expression? : Option Regex}
    (hconverts : Converts given declaration option setting expression?) (injection : Injection τ) :
    (∀ error, (injection.injectOption given declaration defaults? option).error? = some error ↔
      ∃ before piece after, option.settingPieces setting = before ++ piece :: after ∧
        (∀ earlier ∈ before, ∃ value,
          given.convertPiece declaration option setting earlier = .ok value) ∧
        given.convertPiece declaration option setting piece = .error error) ∧
    ((injection.injectOption given declaration defaults? option).error? = none →
      ∃ values,
        List.Forall₂ (fun piece value =>
          given.convertPiece declaration option setting piece = .ok value)
          (option.settingPieces setting) values ∧
        (option.type.Holds
            (get (injection.injectOption given declaration defaults? option).reached.target)
            values ∨
          ¬option.type.leaf.IsExact ∧
            (injection.injectOption given declaration defaults? option).reached.target =
              injection.target ∧
            (option.type.toValue (get injection.target)).equals
              (.collection (collected kind values)) = true)) ∧
    ∀ strings, given.converter option = .plain → option.toUppercase = false →
      kind = .list → type = .element .string →
      (∀ string ∈ strings, Text.IsPiece string.toList) →
      setting.value = " , ".intercalate strings →
      (injection.injectOption given declaration defaults? option).error? = none ∧
        option.type.toValue
            (get (injection.injectOption given declaration defaults? option).reached.target) =
          .collection (strings.map .string) := by
  obtain ⟨element, helement⟩ :=
    OptionDeclaration.exists_elementType (OptionDeclaration.fault?_of_check hconverts.checked)
  have hitems : type = .element element := by
    rw [htype] at helement
    exact helement
  subst hitems
  refine ⟨fun error => ?_, fun hok => ?_, ?_⟩
  · rw [hconverts.error?_eq_some_iff defaults? injection haccess htype hbuiltIn,
      mapM_eq_error_iff]
  · cases hread : (option.settingPieces setting).mapM
        (given.convertPiece declaration option setting) with
    | error error =>
        have herror := hconverts.error?_of_mapM defaults? injection htype hread
        rw [hok] at herror
        cases herror
    | ok values =>
        exact ⟨values, mapM_eq_ok_iff.1 hread, hconverts.holds_of_mapM defaults? injection haccess
          hlawful htype horder hbuiltIn hread⟩
  · rintro strings hplain hupper rfl hstring hstrings hvalue
    cases hstring
    have hread := mapM_strings declaration hplain htype hupper hstrings hvalue
    refine ⟨(hconverts.settled_of_mapM defaults? injection haccess htype hbuiltIn hread).1, ?_⟩
    obtain ⟨other, hother, hmodel⟩ := OptionDeclaration.exists_of_optionType_eq_collection htype
    rcases hconverts.holds_of_mapM defaults? injection haccess hlawful htype horder hbuiltIn hread
      with hholds | ⟨hinexact, -⟩
    · exact FieldType.toValue_of_holds hother (Or.inl rfl) hholds
    · have hleaf := option.leaf_of_elementType helement nofun
      rw [hleaf] at hinexact
      exact absurd trivial hinexact

end Injection

/-! ## A sample -/

namespace CollectionSample

/-- A set of paths and a list of texts. -/
abbrev Target : Type :=
  (FieldType.set (.element .path)).Carrier × (FieldType.list (.element .string)).Carrier

def paths : OptionDeclaration Target :=
  { OptionDeclaration.ofField "p" (.set (.element .path)) Prod.fst
      (fun paths (target : Target) => (paths, target.2)) with
    annotations := [.file .optionalInput] }

def names : OptionDeclaration Target :=
  .ofField "s" (.list (.element .string)) Prod.snd fun names target => (target.1, names)

def declaration : Declaration Target :=
  ⟨"", none, "", [paths, names]⟩

def given (text : String) : Surroundings where
  config :=
    { Configuration.empty "r" false 0 (.memory .empty) with
      settings := .ofSettings [("p", ⟨text, .manual⟩), ("s", ⟨"b , a , b", .manual⟩)] }
  registries := .empty fun _ => true

def holding (held : List Path) : Injection Target :=
  .start (DistinctList.ofList held, ["a"]) .empty

theorem converts_paths (text : String) :
    Injection.Converts (given text) declaration paths ⟨text, some .manual⟩ none where
  checked := OptionDeclaration.check_of_pattern_none (by decide +kernel) rfl
  chosen := rfl
  secure := nofun
  unrestricted := rfl

theorem converts_names (text : String) :
    Injection.Converts (given text) declaration names ⟨"b , a , b", some .manual⟩ none where
  checked := OptionDeclaration.check_of_pattern_none (by decide +kernel) rfl
  chosen := rfl
  secure := nofun
  unrestricted := rfl

/-- The set keeps the other spelling of the path, which is not the first one of the setting. -/
theorem equal_paths_keep_their_spelling :
    Injection.Converts (given "/x/y") declaration paths ⟨"/x/y", some .manual⟩ none ∧
      ((given "/x/y").converter paths).isBuiltIn = true ∧
      paths.settingPieces ⟨"/x/y", some .manual⟩ = ["/x/y"] ∧
      (given "/x/y").convertPiece declaration paths ⟨"/x/y", some .manual⟩ "/x/y" =
        .ok (.path ⟨"/x/y"⟩) ∧
      ((holding [⟨"/x//y"⟩]).injectOption (given "/x/y") declaration none paths).error? = none ∧
      paths.read? ((holding [⟨"/x//y"⟩]).injectOption (given "/x/y") declaration none
        paths).reached.target = some (.collection [.path ⟨"/x//y"⟩]) ∧
      ¬paths.type.Holds ((holding [⟨"/x//y"⟩]).injectOption (given "/x/y") declaration none
        paths).reached.target.1 [.path ⟨"/x/y"⟩] := by
  have hread : paths.read? ((holding [⟨"/x//y"⟩]).injectOption (given "/x/y") declaration none
      paths).reached.target = some (.collection [.path ⟨"/x//y"⟩]) := by
    rfl
  refine ⟨converts_paths "/x/y", rfl, ?_, rfl, ?_, hread, fun hholds => ?_⟩
  · decide +kernel
  · decide +kernel
  · have hlisted := Value.collection.inj (Option.some.inj hread)
    obtain ⟨before, after, hsole, -⟩ :=
      (hholds.mem_iff (.path ⟨"/x//y"⟩)).1 (hlisted ▸ List.mem_cons_self)
    have hmem : Value.path ⟨"/x//y"⟩ ∈ [Value.path ⟨"/x/y"⟩] :=
      hsole ▸ List.mem_append_right before List.mem_cons_self
    have hspelling := congrArg Path.text (Value.path.inj (List.mem_singleton.1 hmem))
    exact absurd hspelling (by decide)

/-- Of equal paths the first spelling remains, and texts come apart at their commas. -/
theorem collections_injected_sample :
    (given "/x/y, /z,,/x//y").convertPiece declaration paths
        ⟨"/x/y, /z,,/x//y", some .manual⟩ "/z" = .ok (.path ⟨"/z"⟩) ∧
      paths.type.Holds ((holding []).injectOption (given "/x/y, /z,,/x//y") declaration none
        paths).reached.target.1 [.path ⟨"/x/y"⟩, .path ⟨"/z"⟩, .path ⟨"/x//y"⟩] ∧
      ((holding []).injectOption (given "") declaration none names).error? = none ∧
      names.type.toValue ((holding []).injectOption (given "") declaration none
        names).reached.target.2 = .collection [.string "b", .string "a", .string "b"] := by
  obtain ⟨-, hpaths, -⟩ := Injection.collections_injected (given "/x/y, /z,,/x//y") declaration
    none paths rfl (fun _ _ => rfl) rfl trivial rfl (converts_paths _) (holding [])
  obtain ⟨values, hvalues, hholds⟩ := hpaths (by decide +kernel)
  have hread : (paths.settingPieces ⟨"/x/y, /z,,/x//y", some .manual⟩).mapM
      ((given "/x/y, /z,,/x//y").convertPiece declaration paths
        ⟨"/x/y, /z,,/x//y", some .manual⟩) =
      .ok [.path ⟨"/x/y"⟩, .path ⟨"/z"⟩, .path ⟨"/x//y"⟩] := by
    rfl
  cases hread.symm.trans (mapM_eq_ok_iff.2 hvalues)
  obtain ⟨-, -, hnames⟩ := Injection.collections_injected (given "") declaration none names rfl
    (fun _ _ => rfl) rfl trivial rfl (converts_names _) (holding [])
  have hpieces : ∀ string ∈ ["b", "a", "b"], Text.IsPiece string.toList := by
    decide +kernel
  refine ⟨rfl, ?_, hnames ["b", "a", "b"] rfl rfl rfl rfl hpieces rfl⟩
  rcases hholds with hholds | ⟨-, -, hequals⟩
  · exact hholds
  · cases hequals

end CollectionSample

end TypedOptions
