import TypedOptions.Converter.Basic
import TypedOptions.Proofs.Outcome
import TypedOptions.Proofs.Rational
import TypedOptions.Proofs.TimeSpan

/-!
# Values that are read back

The text a value is shown with is a text for the value.  A built-in converter
that reads a value, however that was spelled, reads it again from the text it
is shown with.  Doubles are left out, which are rounded on the way, and the
places of files, which depend on where they are named.
-/

namespace TypedOptions

namespace ElementType

/-- Elements whose text is found by the element alone. -/
def IsCanonical : ElementType → Prop
  | .double => False
  | .path => False
  | .pathTemplate => False
  | _ => True

/-- Annotations under which an element is shown as it is read.  The unit that a bare number gets has
to be one that can be read. -/
def Admits (type : ElementType) : Option Annotation → Prop
  | none => True
  | some (.integer _) => True
  | some (.timeSpan rule) => type = .timeSpan ∧ rule.userUnit ∈ TimeUnit.readable
  | some (.file _) => False
  | some (.classes _) => True

end ElementType

/-- The value is read again from the text it is shown with. -/
structure Recurs {ε : Type} (read : String → Except ε Value) (value : Value) : Prop where
  again : read value.text = .ok value
  same : value.equals value = true

/-- What is read as an element, and what of the text is kept in it. -/
inductive Reads (limit : Regex.SizeLimit) (text : String) : ElementType → Value → Prop where
  | bool (content : Bool) : Reads limit text .bool (.bool content)
  | int (content : Int32) : Reads limit text .int (.int content)
  | long (content : Int64) : Reads limit text .long (.long content)
  | string : Reads limit text .string (.string text)
  | constant {constants : Enumeration} (hconstant : text ∈ constants.constants) :
      Reads limit text (.enumeration constants) (.constant text)
  | charset (content : Charset) : Reads limit text .charset (.charset content)
  | level (content : LogLevel) : Reads limit text .level (.level content)
  | pattern (hexpression : Regex.isExpression limit text = true) :
      Reads limit text .pattern (.pattern ⟨text⟩)
  | rational {content : Rational} (hreduced : content.IsReduced) :
      Reads limit text .rational (.rational content)
  | timeSpan {content : TimeSpan} (hunit : content.unit ∈ TimeUnit.readable) :
      Reads limit text .timeSpan (.timeSpan content)

namespace Reads

variable {limit : Regex.SizeLimit} {text : String} {type : ElementType} {value : Value}

theorem same (hreads : Reads limit text type value) : value.equals value = true := by
  cases hreads <;> exact beq_self_eq_true _

/-- Only texts that are values themselves are shown as they were given. -/
theorem isPiece (hreads : Reads limit text type value) (hpiece : Text.IsPiece text.toList) :
    Text.IsPiece value.text.toList := by
  have hword : ∀ word : String, word.toList ≠ [] →
      word.toList.all (fun c => !Text.isBlank c && c != ',') = true →
        Text.IsPiece word.toList := by
    intro word hne hall
    exact Text.isPiece_of_forall hne fun c hc => by simpa using List.all_eq_true.1 hall c hc
  cases hreads with
  | bool content =>
      cases content with
      | false => exact hword "false" (by decide) (by decide)
      | true => exact hword "true" (by decide) (by decide)
  | int content => exact isPiece_toString _
  | long content => exact isPiece_toString _
  | string => exact hpiece
  | constant hconstant => exact hpiece
  | charset content =>
      exact hword content.name (by cases content <;> decide) (by cases content <;> decide)
  | level content =>
      exact hword content.name (by cases content <;> decide) (by cases content <;> decide)
  | pattern hexpression => exact hpiece
  | rational hreduced => exact Rational.isPiece_toText _
  | timeSpan hunit => exact TimeSpan.isPiece_toText _

end Reads

/-! ## Plain values -/

namespace Plain

variable {limit : Regex.SizeLimit} {type : ElementType} {context : ConversionContext}
  {text : String} {value : Value}

theorem readElement_of_convert (h : convert limit context text (.element type) = .ok value) :
    readElement limit text type = .ok value ∧ type.key ≠ .classRef ∧ type.key ≠ .factory := by
  cases type with
  | path => cases h
  | pathTemplate => cases h
  | classRef bound? => cases h
  | factory interface => cases h
  | _ =>
      simp only [convert] at h
      split at h
      · rename_i hread
        cases h
        exact ⟨hread, nofun, nofun⟩
      · cases h
      · cases h

theorem reads_of_convert (hcanonical : type.IsCanonical)
    (h : convert limit context text (.element type) = .ok value) : Reads limit text type value := by
  obtain ⟨hread, hclass, hfactory⟩ := readElement_of_convert h
  cases type with
  | bool =>
      simp only [readElement] at hread
      split at hread
      · cases hread
        exact .bool _
      · cases hread
  | int =>
      obtain ⟨content, -, rfl⟩ := map_eq_ok_iff.1 (mapError_eq_ok_iff.1 hread)
      exact .int content
  | long =>
      obtain ⟨content, -, rfl⟩ := map_eq_ok_iff.1 (mapError_eq_ok_iff.1 hread)
      exact .long content
  | double => exact hcanonical.elim
  | string =>
      cases hread
      exact .string
  | enumeration constants =>
      simp only [readElement] at hread
      split at hread
      · rename_i hconstant
        cases hread
        exact .constant hconstant
      · cases hread
  | charset =>
      obtain ⟨content, -, rfl⟩ := map_eq_ok_iff.1 (mapError_eq_ok_iff.1 hread)
      exact .charset content
  | level =>
      simp only [readElement] at hread
      split at hread
      · cases hread
        exact .level _
      · cases hread
  | pattern =>
      simp only [readElement] at hread
      split at hread
      · rename_i hexpression
        cases hread
        exact .pattern hexpression
      · cases hread
  | rational =>
      obtain ⟨content, hcontent, rfl⟩ := map_eq_ok_iff.1 (mapError_eq_ok_iff.1 hread)
      exact .rational (Rational.isReduced_of_read hcontent)
  | timeSpan =>
      obtain ⟨content, hcontent, rfl⟩ := map_eq_ok_iff.1 (mapError_eq_ok_iff.1 hread)
      exact .timeSpan (TimeSpan.isReadable_of_read hcontent)
  | path => exact hcanonical.elim
  | pathTemplate => exact hcanonical.elim
  | classRef bound? => exact absurd rfl hclass
  | factory interface => exact absurd rfl hfactory

theorem convert_text_of_reads (hreads : Reads limit text type value) (context : ConversionContext) :
    convert limit context value.text (.element type) = .ok value := by
  cases hreads with
  | bool content => cases content <;> rfl
  | int content =>
      simp only [convert, readElement, Value.text, readInt_toString]
      rfl
  | long content =>
      simp only [convert, readElement, Value.text, readLong_toString]
      rfl
  | string => rfl
  | constant hconstant => simp [convert, readElement, Value.text, hconstant]
  | charset content =>
      simp only [convert, readElement, Value.text, Charset.ofName_name]
      rfl
  | level content => simp only [convert, readElement, Value.text, LogLevel.read?_name]
  | pattern hexpression => simp [convert, readElement, Value.text, hexpression]
  | rational hreduced =>
      simp only [convert, readElement, Value.text, Rational.read_toText hreduced]
      rfl
  | timeSpan hunit =>
      simp only [convert, readElement, Value.text, TimeSpan.read_toText hunit]
      rfl

theorem recurs_convert (hcanonical : type.IsCanonical)
    (h : convert limit context text (.element type) = .ok value) (again : ConversionContext) :
    Recurs (convert limit again · (.element type)) value := by
  have hreads := reads_of_convert hcanonical h
  exact ⟨convert_text_of_reads hreads again, hreads.same⟩

end Plain

/-! ## Integers and time spans within bounds -/

theorem toInt_of_toInt? {number : Int64} {value : Int32} (h : toInt? number = some value) :
    value.toInt = number.toInt := by
  unfold toInt? at h
  split at h
  · rename_i hrange
    cases h
    exact toInt_ofInt32_of_contains hrange
  · cases h

namespace RangedInteger

/-- The value of a number, if the type holds integers. -/
def narrow? (number : Int64) : ElementType → Option Value
  | .int => (toInt? number).map .int
  | .long => some (.long number)
  | _ => none

/-- The number is within the bounds, and its value is yielded if the type holds integers. -/
theorem convert_element_eq_ok_iff {context : ConversionContext} {text : String}
    {type : ElementType} {value : Value} :
    convert context text (.element type) = .ok value ↔
      ∃ range number, rangeOf context = .ok range ∧ readLong text = .ok number ∧
        range.contains number = true ∧ narrow? number type = some value := by
  unfold convert
  simp only [bind_eq_ok_iff, mapError_eq_ok_iff, exists_and_left]
  refine exists_congr fun range => and_congr_right fun _ =>
    exists_congr fun number => and_congr_right fun _ => ?_
  cases range.contains number with
  | false => simp [throw, throwThe, MonadExceptOf.throw, bind, Except.bind]
  | true =>
      cases type with
      | int => cases hnarrow : toInt? number <;> simp [narrow?, hnarrow, pure, Except.pure]
      | long => simp [narrow?, pure, Except.pure]
      | _ => simp [narrow?]

theorem text_of_narrow? {number : Int64} {type : ElementType} {value : Value}
    (h : narrow? number type = some value) : value.text = toString number.toInt := by
  unfold narrow? at h
  split at h
  · obtain ⟨content, hcontent, rfl⟩ := Option.map_eq_some_iff.1 h
    exact congrArg toString (toInt_of_toInt? hcontent)
  · cases h
    rfl
  · cases h

theorem rangeOf_of_annotation? {context again : ConversionContext}
    (hsole : again.annotation? = context.annotation?) {range : LongRange}
    (h : rangeOf context = .ok range) : rangeOf again = .ok range := by
  unfold rangeOf at h ⊢
  rw [hsole]
  split at h
  · exact h
  · cases h
  · exact h

theorem reads_of_convert {context : ConversionContext} {text : String} {type : ElementType}
    {value : Value} (limit : Regex.SizeLimit)
    (h : convert context text (.element type) = .ok value) : Reads limit text type value := by
  obtain ⟨-, number, -, -, -, hvalue⟩ := convert_element_eq_ok_iff.1 h
  unfold narrow? at hvalue
  split at hvalue
  · obtain ⟨content, -, rfl⟩ := Option.map_eq_some_iff.1 hvalue
    exact .int content
  · cases hvalue
    exact .long number
  · cases hvalue

theorem recurs_convert {type : ElementType} {context again : ConversionContext} {text : String}
    {value : Value} (hsole : again.annotation? = context.annotation?)
    (h : convert context text (.element type) = .ok value) :
    Recurs (convert again · (.element type)) value := by
  obtain ⟨range, number, hrange, -, hcontains, hvalue⟩ := convert_element_eq_ok_iff.1 h
  have hagain := rangeOf_of_annotation? hsole hrange
  refine ⟨?_, (reads_of_convert (fun _ => true) h).same⟩
  rw [text_of_narrow? hvalue]
  exact convert_element_eq_ok_iff.2
    ⟨range, number, hagain, readLong_toString number, hcontains, hvalue⟩

end RangedInteger

namespace RangedSpan

variable {context again : ConversionContext} {rule : SpanAnnotation} {text : String} {value : Value}

theorem reads_of_convert (limit : Regex.SizeLimit)
    (hannotated : context.annotation? = some (.timeSpan rule))
    (huser : rule.userUnit ∈ TimeUnit.readable)
    (h : convert context text (.element .timeSpan) = .ok value) :
    Reads limit text .timeSpan value := by
  obtain ⟨span, hspan, -, rfl⟩ := (convert_eq_ok_iff hannotated).1 h
  exact .timeSpan (isReadable_of_readSpan huser hspan)

theorem recurs_convert (hannotated : context.annotation? = some (.timeSpan rule))
    (hagain : again.annotation? = some (.timeSpan rule)) (huser : rule.userUnit ∈ TimeUnit.readable)
    (h : convert context text (.element .timeSpan) = .ok value) :
    Recurs (convert again · (.element .timeSpan)) value := by
  obtain ⟨span, hspan, hcontains, rfl⟩ := (convert_eq_ok_iff hannotated).1 h
  refine ⟨?_, (reads_of_convert (fun _ => true) hannotated huser h).same⟩
  have hread : readSpan rule.userUnit span.toText = .ok span :=
    readSpan_toText rule.userUnit (isReadable_of_readSpan huser hspan)
  exact (convert_eq_ok_iff hagain).2 ⟨span, hread, hcontains, rfl⟩

end RangedSpan

/-! ## Classes -/

namespace ClassCatalog

/-- A catalog that registrations have led to. -/
inductive IsRegistered : ClassCatalog → Prop where
  | empty : IsRegistered ∅
  | register {catalog : ClassCatalog} (hregistered : IsRegistered catalog)
      (entry : RegisteredClass) : IsRegistered (catalog.register entry)

/-- Every class is found under its own name. -/
theorem IsRegistered.name_eq {catalog : ClassCatalog} (hregistered : catalog.IsRegistered)
    {name : String} {entry : RegisteredClass} (hentry : catalog[name]? = some entry) :
    entry.name = name := by
  induction hregistered with
  | empty => simp at hentry
  | register hregistered last ih =>
      rw [getElem?_register] at hentry
      split at hentry
      · rename_i hname
        cases hentry
        exact hname
      · exact ih hentry

theorem IsRegistered.getElem?_of_findFirst? {catalog : ClassCatalog}
    (hregistered : catalog.IsRegistered) {names : List String} {entry : RegisteredClass}
    (hentry : catalog.findFirst? names = some entry) : catalog[entry.name]? = some entry := by
  obtain ⟨name, -, hname⟩ := List.exists_of_findSome?_eq_some hentry
  rwa [hregistered.name_eq hname]

end ClassCatalog

namespace Classes

theorem convert_eq_ok_iff {catalog : ClassCatalog} {context : ConversionContext} {text : String}
    {target : OptionType} {value : Value} :
    convert catalog context text target = .ok value ↔
      ∃ entry, catalog.findFirst? (candidates (packages context) text) = some entry ∧
        (target.key = .classRef ∨ target.key = .factory) ∧ fault? target entry = none ∧
        .classRef entry = value := by
  unfold convert
  cases hfound : catalog.findFirst? (candidates (packages context) text) with
  | none => simp
  | some entry =>
      by_cases hkey : target.key = .classRef ∨ target.key = .factory
      · cases hfault : fault? target entry <;> simp [hkey, hfault]
      · simp [hkey]

/-- The name of a registered class stands for it whatever the packages. -/
theorem findFirst?_name {catalog : ClassCatalog} {entry : RegisteredClass}
    (hentry : catalog[entry.name]? = some entry) (packages : List String) :
    catalog.findFirst? (candidates packages entry.name) = some entry := by
  simp [ClassCatalog.findFirst?, candidates, hentry]

theorem recurs_convert {catalog : ClassCatalog} (hregistered : catalog.IsRegistered)
    {context : ConversionContext} {text : String} {target : OptionType} {value : Value}
    (h : convert catalog context text target = .ok value) (again : ConversionContext) :
    Recurs (convert catalog again · target) value := by
  obtain ⟨entry, hentry, hkey, hfault, rfl⟩ := convert_eq_ok_iff.1 h
  refine ⟨?_, beq_self_eq_true entry.name⟩
  have hfound := findFirst?_name (hregistered.getElem?_of_findFirst? hentry) (packages again)
  exact convert_eq_ok_iff.2 ⟨entry, hfound, hkey, hfault, rfl⟩

end Classes

end TypedOptions
