import TypedOptions.Converter.Plain
import TypedOptions.Proofs.Text.Trimming
import TypedOptions.Proofs.Text.Uppercase
import TypedOptions.Proofs.TimeSpan

/-!
# Two readers of time spans

A time span is read with an annotation or without one.  Both readers cut the
text in the same way and make the same of the two parts, but only the reader
without an annotation trims the text before it cuts it.  So they differ where
white space stands behind a unit: to the other reader this text ends in no
letters, and the unit counts as a part of the number.
-/

namespace TypedOptions

open Text (EndsPlain trim trimStart trimEnd isBlank isAlphabetic)

/-! ## White space and letters -/

theorem Text.alphabetic_avoids_blanks :
    alphabeticTable.all (fun range => avoidsBlanks range.1 range.2) = true := by
  decide +kernel

theorem Text.isBlank_of_isAlphabetic {c : Char} (hc : isAlphabetic c = true) :
    isBlank c = false := by
  obtain ⟨range, hrange, hfirst, hlast⟩ := CodeTable.exists_range_of_containsCode hc
  have havoids := List.all_eq_true.1 alphabetic_avoids_blanks range hrange
  exact not_containsCode_of_avoidsBlanks havoids hfirst hlast

theorem Text.isAlphabetic_of_isBlank {c : Char} (hc : isBlank c = true) :
    isAlphabetic c = false := by
  rw [← Bool.not_eq_true]
  intro hletter
  rw [isBlank_of_isAlphabetic hletter] at hc
  cases hc

theorem Text.exists_isBlank_of_not_endsPlain {text : List Char} (htext : ¬EndsPlain text) :
    ∃ before c, text = before ++ [c] ∧ isBlank c = true := by
  rcases List.eq_nil_or_concat text with rfl | ⟨before, c, rfl⟩
  · exact absurd (by simp [EndsPlain]) htext
  · rw [List.concat_eq_append] at htext ⊢
    exact ⟨before, c, rfl, by simpa [EndsPlain] using htext⟩

namespace TimeSpan

/-! ## Where a text is cut -/

/-- Every text is some part that does not end in a letter, and then letters. -/
theorem exists_number_and_letters (text : List Char) :
    ∃ number letters, text = number ++ letters ∧
      (∀ c ∈ number.getLast?, isAlphabetic c = false) ∧
      ∀ c ∈ letters, isAlphabetic c = true := by
  refine ⟨(text.reverse.dropWhile isAlphabetic).reverse,
    (text.reverse.takeWhile isAlphabetic).reverse, ?_, ?_, ?_⟩
  · rw [← List.reverse_append, List.takeWhile_append_dropWhile, List.reverse_reverse]
  · intro c hlast
    rw [List.getLast?_reverse] at hlast
    have hfirst := List.head?_dropWhile_not isAlphabetic text.reverse
    rw [hlast] at hfirst
    exact hfirst
  · intro c hc
    exact List.all_eq_true.1 List.all_takeWhile c (List.mem_reverse.1 hc)

theorem splitUnit_cons_of_isBlank {c : Char} (text : List Char) (hc : isBlank c = true) :
    splitUnit (c :: text) = splitUnit text := by
  obtain ⟨number, letters, rfl, hnumber, hletters⟩ := exists_number_and_letters text
  have hboundary : ∀ final ∈ (c :: number).getLast?, isAlphabetic final = false := by
    rw [List.getLast?_cons]
    intro final hfinal
    cases hlast : number.getLast? with
    | none =>
        rw [hlast] at hfinal
        cases hfinal
        exact Text.isAlphabetic_of_isBlank hc
    | some last =>
        rw [hlast] at hfinal
        cases hfinal
        exact hnumber last hlast
  rw [← List.cons_append, splitUnit_append hboundary hletters, splitUnit_append hnumber hletters,
    Text.trim_cons_of_isBlank number hc]

theorem splitUnit_trimStart (text : List Char) : splitUnit (trimStart text) = splitUnit text := by
  induction text with
  | nil => rfl
  | cons c rest ih =>
      by_cases hc : isBlank c = true
      · rw [Text.trimStart_cons_of_isBlank rest hc, ih, splitUnit_cons_of_isBlank rest hc]
      · rw [Text.trimStart_cons_of_not_isBlank rest (Bool.not_eq_true _ ▸ hc)]

/-- White space before a text makes no difference to where it is cut. -/
theorem splitUnit_trim {text : List Char} (htext : EndsPlain text) :
    splitUnit (trim text) = splitUnit text := by
  rw [trim, ← Text.trimStart_trimEnd, Text.trimEnd_eq_self htext, splitUnit_trimStart]

/-- Behind the last letter of the text the unit begins, but there is none. -/
theorem splitUnit_of_no_letter {text : List Char}
    (htext : ∀ c ∈ text.getLast?, isAlphabetic c = false) : splitUnit text = (trim text, []) := by
  have hcut := splitUnit_append htext fun c (hc : c ∈ []) => absurd hc List.not_mem_nil
  simpa using hcut

theorem splitUnit_of_not_endsPlain {text : List Char} (htext : ¬EndsPlain text) :
    splitUnit text = (trim text, []) := by
  obtain ⟨before, c, rfl, hc⟩ := Text.exists_isBlank_of_not_endsPlain htext
  apply splitUnit_of_no_letter
  simpa using Text.isAlphabetic_of_isBlank hc

/-! ## What both readers make of the parts -/

/-- The span of a number and the letters behind it. -/
def ofParts? (default : TimeUnit) (parts : List Char × List Char) : Option TimeSpan :=
  let unit? := if parts.2 = [] then some default else TimeUnit.ofSuffix? (String.ofList parts.2)
  unit?.bind fun unit =>
    (readInteger .long parts.1).toOption.map fun number => ⟨Int64.ofInt number, unit⟩

theorem read_eq_ok_iff {text : String} {t : TimeSpan} :
    read text = .ok t ↔ ofParts? .seconds (splitUnit (trim text.toList)) = some t := by
  unfold read ofParts?
  dsimp only
  generalize splitUnit (trim text.toList) = parts
  generalize (if parts.2 = [] then some TimeUnit.seconds
    else TimeUnit.ofSuffix? (String.ofList parts.2)) = unit?
  cases unit? with
  | none => simp
  | some unit =>
      cases readInteger .long parts.1 with
      | error cause => simp [Except.toOption]
      | ok number => simp [Except.toOption]

end TimeSpan

namespace RangedSpan

/-- That there has to be a digit asks for nothing else, as numbers have one. -/
theorem readSpan_eq_ok_iff {userUnit : TimeUnit} {text : String} {t : TimeSpan} :
    readSpan userUnit text = .ok t ↔
      TimeSpan.ofParts? userUnit (TimeSpan.splitUnit text.toList) = some t := by
  unfold readSpan TimeSpan.ofParts?
  dsimp only
  generalize TimeSpan.splitUnit text.toList = parts
  generalize (if parts.2 = [] then some userUnit
    else TimeUnit.ofSuffix? (String.ofList parts.2)) = unit?
  cases hread : readInteger .long parts.1 with
  | error cause =>
      cases unit? with
      | none => split <;> simp
      | some unit => split <;> simp [Except.toOption]
  | ok number =>
      obtain ⟨c, hlast, hc⟩ := exists_final_digit_of_readInteger hread
      have hdigit : parts.1.any Char.isDigit = true :=
        List.any_eq_true.2 ⟨c, List.mem_of_getLast? hlast, hc⟩
      cases unit? with
      | none => simp [hdigit]
      | some unit => simp [hdigit, Except.toOption]

/-- White space stands behind the letters of a unit. -/
def BlankBehindUnit (text : List Char) : Prop :=
  ¬EndsPlain text ∧ ∃ c ∈ (trim text).getLast?, isAlphabetic c = true

theorem readSpan_seconds_iff {text : String} {t : TimeSpan} :
    readSpan .seconds text = .ok t ↔
      TimeSpan.read text = .ok t ∧ ¬BlankBehindUnit text.toList := by
  rw [readSpan_eq_ok_iff, TimeSpan.read_eq_ok_iff]
  by_cases hends : EndsPlain text.toList
  · rw [TimeSpan.splitUnit_trim hends, and_iff_left fun hblank => hblank.1 hends]
  · rw [TimeSpan.splitUnit_of_not_endsPlain hends]
    by_cases hunit : ∃ c ∈ (trim text.toList).getLast?, isAlphabetic c = true
    · -- The letters of the unit are taken for a part of the number.
      rw [iff_false_right fun hplain => hplain.2 ⟨hends, hunit⟩]
      obtain ⟨letter, hletter, halphabetic⟩ := hunit
      intro hspan
      cases hread : readInteger .long (trim text.toList) with
      | error cause => simp [TimeSpan.ofParts?, hread, Except.toOption] at hspan
      | ok number =>
          obtain ⟨c, hlast, hdigit⟩ := exists_final_digit_of_readInteger hread
          cases Option.mem_unique hletter hlast
          rw [isAlphabetic_of_isDigit hdigit] at halphabetic
          cases halphabetic
    · have hother : ∀ c ∈ (trim text.toList).getLast?, isAlphabetic c = false := by
        intro c hlast
        rw [← Bool.not_eq_true]
        exact fun hc => hunit ⟨c, hlast, hc⟩
      rw [TimeSpan.splitUnit_of_no_letter hother,
        Text.trim_eq_self (Text.startsPlain_trim _) (Text.endsPlain_trim _),
        and_iff_left fun hblank => hunit hblank.2]

theorem readSpan_trim_iff {text : String} {t : TimeSpan} :
    readSpan .seconds (String.ofList (trim text.toList)) = .ok t ↔ TimeSpan.read text = .ok t := by
  rw [readSpan_eq_ok_iff, TimeSpan.read_eq_ok_iff, String.toList_ofList]

theorem convert_unrestricted_iff {context : ConversionContext} {codeUnit : TimeUnit}
    (hannotated : context.annotation? = some (.timeSpan ⟨codeUnit, .seconds, .all⟩))
    {text : String} {value : Value} :
    convert context text (.element .timeSpan) = .ok value ↔
      ∃ span, readSpan .seconds text = .ok span ∧ value = .timeSpan span := by
  have hall : ∀ number, LongRange.all.contains number = true := fun number =>
    LongRange.contains_iff.2 (contains_toInt64 number)
  rw [convert_eq_ok_iff hannotated]
  simp only [hall, true_and]

end RangedSpan

theorem Plain.convert_timeSpan_iff {limit : Regex.SizeLimit} {context : ConversionContext}
    {text : String} {value : Value} :
    convert limit context text (.element .timeSpan) = .ok value ↔
      ∃ span, TimeSpan.read text = .ok span ∧ value = .timeSpan span := by
  unfold convert readElement
  dsimp only
  cases TimeSpan.read text with
  | error cause => simp [Except.map, Except.mapError]
  | ok span => simp [Except.map, Except.mapError, eq_comm]

namespace RangedSpan

/-- With seconds for numbers without a unit and no bounds, a text is converted with an annotation
exactly if it is without one, to the same span in the same unit, unless white space stands behind
a unit.  Such a text is refused, and converted as well once it is trimmed. -/
theorem read_alike_unless_blank_behind_unit {limit : Regex.SizeLimit}
    {context plain : ConversionContext} {codeUnit : TimeUnit}
    (hannotated : context.annotation? = some (.timeSpan ⟨codeUnit, .seconds, .all⟩))
    (text : String) (value : Value) :
    (convert context text (.element .timeSpan) = .ok value ↔
      Plain.convert limit plain text (.element .timeSpan) = .ok value ∧
        ¬BlankBehindUnit text.toList) ∧
    (convert context (String.ofList (trim text.toList)) (.element .timeSpan) = .ok value ↔
      Plain.convert limit plain text (.element .timeSpan) = .ok value) := by
  rw [convert_unrestricted_iff hannotated, convert_unrestricted_iff hannotated,
    Plain.convert_timeSpan_iff]
  constructor
  · simp only [readSpan_seconds_iff, and_assoc, and_comm, exists_and_left]
  · simp only [readSpan_trim_iff]

/-! ## Samples -/

namespace ReadersSample

def context : ConversionContext :=
  ⟨"limits.time", some (.timeSpan ⟨.hours, .seconds, .all⟩), none⟩

def plain : ConversionContext :=
  ⟨"limits.time", none, none⟩

/-- No expression is too large. -/
def limit : Regex.SizeLimit := fun _ => true

/-- A blank behind a unit is in the way of the reader with an annotation only. -/
theorem blank_behind_unit_refused :
    Plain.convert limit plain "10s " (.element .timeSpan) = .ok (.timeSpan ⟨10, .seconds⟩) ∧
      convert context "10s " (.element .timeSpan) =
        .error (.configuration (.value "10s " "limits.time" (.integer .invalidDigit))) :=
  ⟨rfl, rfl⟩

/-- White space of any kind before the number, and before the unit, is in nobody's way. -/
theorem read_alike_unless_blank_behind_unit_sample :
    context.annotation? = some (.timeSpan ⟨.hours, .seconds, .all⟩) ∧
      ¬BlankBehindUnit "\u3000+10 min".toList ∧
      Plain.convert limit plain "\u3000+10 min" (.element .timeSpan) =
        .ok (.timeSpan ⟨10, .minutes⟩) ∧
      convert context "\u3000+10 min" (.element .timeSpan) = .ok (.timeSpan ⟨10, .minutes⟩) ∧
      ∀ value, convert context "10s " (.element .timeSpan) ≠ .ok value := by
  have hends : ¬BlankBehindUnit "\u3000+10 min".toList := fun hblank =>
    hblank.1 (by decide)
  have hplain : Plain.convert limit plain "\u3000+10 min" (.element .timeSpan) =
      .ok (.timeSpan ⟨10, .minutes⟩) := rfl
  have hblank : BlankBehindUnit "10s ".toList := ⟨by decide, 's', by decide, by decide⟩
  refine ⟨rfl, hends, hplain, ?_, fun value hvalue => ?_⟩
  · exact (read_alike_unless_blank_behind_unit rfl _ _).1.2 ⟨hplain, hends⟩
  · have hboth : convert context "10s " (.element .timeSpan) = .ok value ↔
        Plain.convert limit plain "10s " (.element .timeSpan) = .ok value ∧
          ¬BlankBehindUnit "10s ".toList :=
      (read_alike_unless_blank_behind_unit rfl _ _).1
    exact (hboth.1 hvalue).2 hblank

end ReadersSample

end RangedSpan

end TypedOptions
