import TypedOptions.Proofs.Converter.Shapes
import TypedOptions.Proofs.Converter.ShownValues
import TypedOptions.Proofs.TimeSpan

/-!
# What fields take of a time span

With the annotation for time spans a text is understood in one way, whatever
the field holds: a time span, or the number of its code units as a long or a
short integer.  A short integer asks for a number of 32 bits beyond that, and
nothing but the text can be at fault.
-/

namespace TypedOptions

theorem toInt?_eq_some_iff {number : Int64} {value : Int32} :
    toInt? number = some value ↔ value.toInt = number.toInt := by
  refine ⟨toInt_of_toInt?, fun hsame => ?_⟩
  have hrange : IntegerRange.int.Contains number.toInt := hsame ▸ contains_toInt32 value
  rw [toInt?, if_pos hrange, ← hsame, Int32.ofInt_toInt]

namespace RangedSpan

section Targets

variable {context : ConversionContext} {rule : SpanAnnotation} {text : String} {value : Value}

theorem convert_long_iff (hannotated : context.annotation? = some (.timeSpan rule)) :
    convert context text (.element .long) = .ok value ↔
      ∃ span, convert context text (.element .timeSpan) = .ok (.timeSpan span) ∧
        value = .long (span.asUnit rule.codeUnit) := by
  rw [convert_element_eq_ok_iff hannotated]
  simp only [convert_element_eq_ok_iff hannotated, valueFor?, Option.some_inj,
    Value.timeSpan.injEq]
  constructor
  · rintro ⟨span, hspan, hcontains, hvalue⟩
    exact ⟨span, ⟨span, hspan, hcontains, rfl⟩, hvalue.symm⟩
  · rintro ⟨given, ⟨span, hspan, hcontains, hsame⟩, hvalue⟩
    subst hsame
    exact ⟨span, hspan, hcontains, hvalue.symm⟩

theorem convert_int_iff (hannotated : context.annotation? = some (.timeSpan rule)) :
    convert context text (.element .int) = .ok value ↔
      ∃ number short, convert context text (.element .long) = .ok (.long number) ∧
        short.toInt = number.toInt ∧ value = .int short := by
  rw [convert_element_eq_ok_iff hannotated]
  simp only [convert_element_eq_ok_iff hannotated, valueFor?, Option.map_eq_some_iff,
    Option.some_inj, Value.long.injEq, toInt?_eq_some_iff]
  constructor
  · rintro ⟨span, hspan, hcontains, short, hshort, hvalue⟩
    exact ⟨_, short, ⟨span, hspan, hcontains, rfl⟩, hshort, hvalue.symm⟩
  · rintro ⟨number, short, ⟨span, hspan, hcontains, hsame⟩, hshort, hvalue⟩
    subst hsame
    exact ⟨span, hspan, hcontains, short, hshort, hvalue.symm⟩

/-- A text that is read as a time span is converted if its code units are within the bounds. -/
theorem convert_timeSpan_iff (hannotated : context.annotation? = some (.timeSpan rule)) :
    convert context text (.element .timeSpan) = .ok value ↔
      ∃ span, value = .timeSpan span ∧ readSpan rule.userUnit text = .ok span ∧
        rule.range.least.toInt ≤ (span.asUnit rule.codeUnit).toInt ∧
        (span.asUnit rule.codeUnit).toInt ≤ rule.range.greatest.toInt := by
  rw [convert_eq_ok_iff hannotated]
  simp only [LongRange.contains_iff]
  constructor
  · rintro ⟨span, hspan, hwithin, hvalue⟩
    exact ⟨span, hvalue, hspan, hwithin⟩
  · rintro ⟨span, hvalue, hspan, hwithin⟩
    exact ⟨span, hspan, hwithin, hvalue⟩

theorem isFault_of_convert (hannotated : context.annotation? = some (.timeSpan rule))
    {type : ElementType} (htype : type ∈ [.int, .long, .timeSpan]) {error : OptionError}
    (hconvert : convert context text (.element type) = .error error) :
    ∃ fault, error = .configuration fault := by
  have hkey : type.key ∈ AnnotationKind.timeSpan.applicableTypes := by
    simp only [List.mem_cons, List.not_mem_nil, or_false] at htype
    rcases htype with rfl | rfl | rfl <;> decide
  have hanswers := answers_convert hkey hannotated text
  rw [hconvert] at hanswers
  cases hanswers with
  | fault fault => exact ⟨fault, rfl⟩

/-- The three types of fields agree: a long integer is converted exactly if a time span is, to the
number of its code units, which is within the bounds; a short integer exactly if a long one is and
32 bits hold the number.  A time span is converted whenever the text is read as one within the
bounds, and every failure tells what is wrong with the configuration. -/
theorem targets_agree (hannotated : context.annotation? = some (.timeSpan rule)) (text : String) :
    (∀ value, convert context text (.element .long) = .ok value ↔
      ∃ span, convert context text (.element .timeSpan) = .ok (.timeSpan span) ∧
        value = .long (span.asUnit rule.codeUnit)) ∧
    (∀ value, convert context text (.element .timeSpan) = .ok value ↔
      ∃ span, value = .timeSpan span ∧ readSpan rule.userUnit text = .ok span ∧
        rule.range.least.toInt ≤ (span.asUnit rule.codeUnit).toInt ∧
        (span.asUnit rule.codeUnit).toInt ≤ rule.range.greatest.toInt) ∧
    (∀ value, convert context text (.element .int) = .ok value ↔
      ∃ number short, convert context text (.element .long) = .ok (.long number) ∧
        short.toInt = number.toInt ∧ value = .int short) ∧
    ∀ type ∈ [ElementType.int, .long, .timeSpan], ∀ error,
      convert context text (.element type) = .error error →
        ∃ fault, error = .configuration fault :=
  ⟨fun _ => convert_long_iff hannotated, fun _ => convert_timeSpan_iff hannotated,
    fun _ => convert_int_iff hannotated, fun _ htype _ => isFault_of_convert hannotated htype⟩

end Targets

/-! ## A sample -/

namespace TargetsSample

/-- Numbers count hours, fields count milliseconds. -/
def rule : SpanAnnotation :=
  ⟨.milliseconds, .hours, ⟨0, Int64.maxValue⟩⟩

def context : ConversionContext :=
  ⟨"limits.time", some (.timeSpan rule), none⟩

/-- A time span that stops at the end of the range is given to long fields, but short ones do not
hold it. -/
theorem targets_agree_sample :
    context.annotation? = some (.timeSpan rule) ∧
      convert context "9223372036854775807" (.element .timeSpan) =
        .ok (.timeSpan ⟨9223372036854775807, .hours⟩) ∧
      convert context "9223372036854775807" (.element .long) = .ok (.long Int64.maxValue) ∧
      (∀ value, convert context "9223372036854775807" (.element .int) ≠ .ok value) ∧
      ∃ fault, convert context "-1" (.element .int) = .error (.configuration fault) := by
  obtain ⟨hlong, htimeSpan, hint, -⟩ :=
    targets_agree (rfl : context.annotation? = some (.timeSpan rule)) "9223372036854775807"
  obtain ⟨-, -, -, hfaults⟩ :=
    targets_agree (rfl : context.annotation? = some (.timeSpan rule)) "-1"
  have hunits : (⟨9223372036854775807, .hours⟩ : TimeSpan).asUnit rule.codeUnit =
      Int64.maxValue := by decide
  have hspan : convert context "9223372036854775807" (.element .timeSpan) =
      .ok (.timeSpan ⟨9223372036854775807, .hours⟩) :=
    (htimeSpan _).2 ⟨_, rfl, rfl, by decide, by decide⟩
  have hstopped : convert context "9223372036854775807" (.element .long) =
      .ok (.long Int64.maxValue) := (hlong _).2 ⟨_, hspan, congrArg Value.long hunits.symm⟩
  refine ⟨rfl, hspan, hstopped, fun value hvalue => ?_, ?_⟩
  · obtain ⟨number, short, hnumber, hshort, -⟩ := (hint value).1 hvalue
    rw [hstopped] at hnumber
    cases hnumber
    have hbound := (contains_toInt32 short).2
    rw [hshort] at hbound
    exact absurd hbound (by decide)
  · cases hbelow : convert context "-1" (.element .int) with
    | ok value => cases hbelow
    | error error =>
        obtain ⟨fault, rfl⟩ := hfaults .int (by decide) error hbelow
        exact ⟨fault, rfl⟩

end TargetsSample

end RangedSpan

end TypedOptions
