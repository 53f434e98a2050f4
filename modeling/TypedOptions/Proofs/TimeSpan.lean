import TypedOptions.Converter.Ranged
import TypedOptions.Proofs.Number.Integer
import TypedOptions.Proofs.Outcome

/-!
# Time spans that are written and read

The text of a time span is its number and the letters of its unit.  Neither
digits nor signs are letters, so a text is cut where it was put together, and
a time span of a readable unit is read back.  All that is read has such a
unit.
-/

namespace TypedOptions

namespace TimeUnit

theorem mem_readable_of_ofSuffix? {suffix : String} {unit : TimeUnit}
    (h : ofSuffix? suffix = some unit) : unit ∈ readable :=
  List.mem_of_find?_eq_some h

/-- Both readers take a unit of their own where a text has none. -/
theorem mem_readable_of_choice {letters : List Char} {default unit : TimeUnit}
    (hdefault : default ∈ readable)
    (h : (if letters = [] then some default else ofSuffix? (String.ofList letters)) = some unit) :
    unit ∈ readable := by
  split at h
  · exact Option.some.inj h ▸ hdefault
  · exact mem_readable_of_ofSuffix? h

theorem ofSuffix?_suffix {unit : TimeUnit} (hunit : unit ∈ readable) :
    ofSuffix? unit.suffix = some unit := by
  revert unit
  decide

theorem suffix_ne_nil (unit : TimeUnit) : unit.suffix.toList ≠ [] := by
  cases unit <;> decide

/-- The letters of units are neither white space nor commas. -/
theorem isLetter_of_mem_suffix {unit : TimeUnit} {c : Char} (hc : c ∈ unit.suffix.toList) :
    Text.isAlphabetic c = true ∧ Text.isBlank c = false ∧ c ≠ ',' := by
  have hletters : unit.suffix.toList.all (fun c =>
      Text.isAlphabetic c && !Text.isBlank c && c != ',') = true := by
    cases unit <;> decide
  have hletter := List.all_eq_true.1 hletters c hc
  simpa [and_assoc] using hletter

theorem trim_suffix (unit : TimeUnit) : Text.trim unit.suffix.toList = unit.suffix.toList :=
  (Text.isPiece_of_forall unit.suffix_ne_nil fun _ hc => (isLetter_of_mem_suffix hc).2).trim_eq

end TimeUnit

namespace TimeSpan

theorem toList_toText (t : TimeSpan) :
    t.toText.toList = (toString t.span.toInt).toList ++ t.unit.suffix.toList :=
  String.toList_append

/-- A text is cut before the letters at its end. -/
theorem splitUnit_append {number letters : List Char}
    (hnumber : ∀ c ∈ number.getLast?, Text.isAlphabetic c = false)
    (hletters : ∀ c ∈ letters, Text.isAlphabetic c = true) :
    splitUnit (number ++ letters) = (Text.trim number, Text.trim letters) := by
  have hfirst : ∀ c ∈ letters.reverse, Text.isAlphabetic c = true :=
    fun c hc => hletters c (List.mem_reverse.1 hc)
  have hboundary : number.reverse.takeWhile Text.isAlphabetic = [] ∧
      number.reverse.dropWhile Text.isAlphabetic = number.reverse := by
    cases hreverse : number.reverse with
    | nil => exact ⟨rfl, rfl⟩
    | cons c rest =>
        have hc : Text.isAlphabetic c = false :=
          hnumber c (List.head?_reverse ▸ hreverse ▸ rfl)
        simp [hc]
  unfold splitUnit
  rw [List.reverse_append, List.takeWhile_append_of_pos hfirst, List.dropWhile_append_of_pos hfirst,
    hboundary.1, hboundary.2, List.append_nil, List.reverse_reverse, List.reverse_reverse]

theorem splitUnit_toText (t : TimeSpan) :
    splitUnit t.toText.toList = ((toString t.span.toInt).toList, t.unit.suffix.toList) := by
  rw [toList_toText, splitUnit_append
    (fun _ hlast => isAlphabetic_of_mem_toString (List.mem_of_getLast? hlast))
    (fun _ hc => (TimeUnit.isLetter_of_mem_suffix hc).1), (isPiece_toString _).trim_eq,
    TimeUnit.trim_suffix]

theorem isPiece_toText (t : TimeSpan) : Text.IsPiece t.toText.toList := by
  rw [toList_toText]
  apply Text.isPiece_of_forall
  · simp [t.unit.suffix_ne_nil]
  · intro c hc
    rcases List.mem_append.1 hc with hnumber | hletter
    · exact isPlain_of_mem_toString hnumber
    · exact (TimeUnit.isLetter_of_mem_suffix hletter).2

/-- A time span of a readable unit is read back from its text. -/
theorem read_toText {t : TimeSpan} (hunit : t.unit ∈ TimeUnit.readable) :
    read t.toText = .ok t := by
  have hnumber := readInteger_toString (by decide : IntegerRange.long.Contains 0)
    (contains_toInt64 t.span)
  unfold read
  simp only [(isPiece_toText t).trim_eq, splitUnit_toText, if_neg t.unit.suffix_ne_nil,
    String.ofList_toList, TimeUnit.ofSuffix?_suffix hunit, hnumber, Int64.ofInt_toInt]

theorem isReadable_of_read {text : String} {t : TimeSpan} (h : read text = .ok t) :
    t.unit ∈ TimeUnit.readable := by
  unfold read at h
  dsimp only at h
  split at h
  · cases h
  · rename_i unit hunit
    split at h
    · cases h
      exact TimeUnit.mem_readable_of_choice (by decide) hunit
    · cases h

end TimeSpan

namespace RangedSpan

theorem readSpan_toText {t : TimeSpan} (userUnit : TimeUnit) (hunit : t.unit ∈ TimeUnit.readable) :
    readSpan userUnit t.toText = .ok t := by
  have hnumber := readInteger_toString (by decide : IntegerRange.long.Contains 0)
    (contains_toInt64 t.span)
  have hdigit : (toString t.span.toInt).toList.any Char.isDigit = true :=
    List.any_eq_true.2 (exists_isDigit_toString _)
  unfold readSpan
  simp only [TimeSpan.splitUnit_toText, hdigit, Bool.not_true, Bool.false_eq_true, if_false,
    if_neg t.unit.suffix_ne_nil, String.ofList_toList, TimeUnit.ofSuffix?_suffix hunit, hnumber,
    Int64.ofInt_toInt]

theorem isReadable_of_readSpan {userUnit : TimeUnit} {text : String} {t : TimeSpan}
    (huser : userUnit ∈ TimeUnit.readable) (h : readSpan userUnit text = .ok t) :
    t.unit ∈ TimeUnit.readable := by
  unfold readSpan at h
  dsimp only at h
  split at h
  · cases h
  · split at h
    · cases h
    · rename_i unit hunit
      split at h
      · cases h
        exact TimeUnit.mem_readable_of_choice huser hunit
      · cases h

/-- What is made of a span that the annotation lets pass; an integer counts its code units. -/
def valueFor? (rule : SpanAnnotation) (span : TimeSpan) : ElementType → Option Value
  | .int => (toInt? (span.asUnit rule.codeUnit)).map .int
  | .long => some (.long (span.asUnit rule.codeUnit))
  | .timeSpan => some (.timeSpan span)
  | _ => none

/-- All types are given the same span, which has passed the same range. -/
theorem convert_element_eq_ok_iff {context : ConversionContext} {rule : SpanAnnotation}
    {text : String} {type : ElementType} {value : Value}
    (hannotated : context.annotation? = some (.timeSpan rule)) :
    convert context text (.element type) = .ok value ↔
      ∃ span, readSpan rule.userUnit text = .ok span ∧
        rule.range.contains (span.asUnit rule.codeUnit) = true ∧
        valueFor? rule span type = some value := by
  unfold convert
  rw [hannotated]
  simp only [bind_eq_ok_iff, mapError_eq_ok_iff]
  refine exists_congr fun span => and_congr_right fun _ => ?_
  cases rule.range.contains (span.asUnit rule.codeUnit) with
  | false => simp [throw, throwThe, MonadExceptOf.throw, bind, Except.bind]
  | true =>
      cases type with
      | int =>
          simp only [valueFor?]
          cases toInt? (span.asUnit rule.codeUnit) <;> simp [pure, Except.pure]
      | long => simp [valueFor?, pure, Except.pure]
      | timeSpan => simp [valueFor?, pure, Except.pure]
      | _ => simp [valueFor?]

theorem convert_eq_ok_iff {context : ConversionContext} {rule : SpanAnnotation} {text : String}
    {value : Value} (hannotated : context.annotation? = some (.timeSpan rule)) :
    convert context text (.element .timeSpan) = .ok value ↔
      ∃ span, readSpan rule.userUnit text = .ok span ∧
        rule.range.contains (span.asUnit rule.codeUnit) = true ∧ value = .timeSpan span := by
  rw [convert_element_eq_ok_iff hannotated]
  simp only [valueFor?, Option.some_inj, eq_comm]

end RangedSpan

end TypedOptions
