import TypedOptions.Proofs.Converter.ShownValues
import TypedOptions.Proofs.Number.Decimal

/-!
# Two converters of integers

A plain integer is read straight into the width of its field.  With an
annotation it is read into 64 bits first, compared with the bounds, and only
then made as short as the field is.  Both ways accept the decimal integers
that the field holds, and the bounds are all that is between them.
-/

namespace TypedOptions

variable {limit : Regex.SizeLimit} {context : ConversionContext} {text : String}
  {target : OptionType} {value : Value}

/-! ## Without an annotation -/

namespace Plain

theorem convert_int_iff :
    convert limit context text (.element .int) = .ok value ↔
      ∃ number : Int32, IsDecimal text.toList number.toInt ∧ value = .int number := by
  simp only [← readInt_eq_ok_iff, convert, readElement]
  cases readInt text with
  | error cause => simp [Except.map, Except.mapError]
  | ok number => simp [Except.map, Except.mapError, eq_comm]

theorem convert_long_iff :
    convert limit context text (.element .long) = .ok value ↔
      ∃ number : Int64, IsDecimal text.toList number.toInt ∧ value = .long number := by
  simp only [← readLong_eq_ok_iff, convert, readElement]
  cases readLong text with
  | error cause => simp [Except.map, Except.mapError]
  | ok number => simp [Except.map, Except.mapError, eq_comm]

theorem exists_reads_of_convert (h : convert limit context text target = .ok value) :
    ∃ type, target = .element type ∧
      (Reads limit text type value ∨ type = .double ∧ ∃ content, value = .double content) := by
  cases target with
  | collection kind items => cases h
  | element type =>
      refine ⟨type, rfl, ?_⟩
      by_cases hcanonical : type.IsCanonical
      · exact Or.inl (reads_of_convert hcanonical h)
      · cases type with
        | double =>
            obtain ⟨content, -, hcontent⟩ :=
              map_eq_ok_iff.1 (mapError_eq_ok_iff.1 (readElement_of_convert h).1)
            exact Or.inr ⟨rfl, content, hcontent⟩
        | path => cases h
        | pathTemplate => cases h
        | _ => exact absurd trivial hcanonical

/-- Integers of either width come from fields of that width only. -/
theorem target_of_convert_int {number : Int32}
    (h : convert limit context text target = .ok (.int number)) : target = .element .int := by
  obtain ⟨type, rfl, hreads | ⟨-, content, hcontent⟩⟩ := exists_reads_of_convert h
  · cases hreads
    rfl
  · cases hcontent

theorem target_of_convert_long {number : Int64}
    (h : convert limit context text target = .ok (.long number)) : target = .element .long := by
  obtain ⟨type, rfl, hreads | ⟨-, content, hcontent⟩⟩ := exists_reads_of_convert h
  · cases hreads
    rfl
  · cases hcontent

end Plain

/-! ## Within bounds -/

/-- The number that an integer of either width is. -/
def Value.integer? : Value → Option Int
  | .int number => some number.toInt
  | .long number => some number.toInt
  | _ => none

theorem LongRange.contains_all (number : Int64) :
    all.least.toInt ≤ number.toInt ∧ number.toInt ≤ all.greatest.toInt :=
  contains_toInt64 number

namespace RangedInteger

theorem target_of_convert (h : convert context text target = .ok value) :
    target = .element .int ∨ target = .element .long := by
  cases target with
  | element type =>
      obtain ⟨-, number, -, -, -, hvalue⟩ := convert_element_eq_ok_iff.1 h
      unfold narrow? at hvalue
      split at hvalue
      · exact Or.inl rfl
      · exact Or.inr rfl
      · cases hvalue
  | collection kind items =>
      obtain ⟨range, -, hrest⟩ := bind_eq_ok_iff.1 h
      obtain ⟨number, -, hrest⟩ := bind_eq_ok_iff.1 hrest
      cases hcontains : range.contains number with
      | false => simp [hcontains, throw, throwThe, MonadExceptOf.throw, bind, Except.bind] at hrest
      | true => simp [hcontains] at hrest

section Bounds

variable {range : LongRange} (hrange : rangeOf context = .ok range)
include hrange

theorem convert_element_iff {type : ElementType} :
    convert context text (.element type) = .ok value ↔
      ∃ number, IsDecimal text.toList number.toInt ∧
        (range.least.toInt ≤ number.toInt ∧ number.toInt ≤ range.greatest.toInt) ∧
        narrow? number type = some value := by
  simp only [convert_element_eq_ok_iff, hrange, exists_and_left, Except.ok.injEq, exists_eq_left',
    readLong_eq_ok_iff, LongRange.contains_iff]

theorem convert_long_iff :
    convert context text (.element .long) = .ok value ↔
      ∃ number : Int64, IsDecimal text.toList number.toInt ∧ value = .long number ∧
        range.least.toInt ≤ number.toInt ∧ number.toInt ≤ range.greatest.toInt := by
  rw [convert_element_iff hrange]
  simp only [narrow?, Option.some_inj]
  refine exists_congr fun number => and_congr_right fun _ => ?_
  rw [and_comm, eq_comm]

/-- A short integer is the same number as the long one that is read first. -/
theorem convert_int_iff :
    convert context text (.element .int) = .ok value ↔
      ∃ number : Int32, IsDecimal text.toList number.toInt ∧ value = .int number ∧
        range.least.toInt ≤ number.toInt ∧ number.toInt ≤ range.greatest.toInt := by
  rw [convert_element_iff hrange]
  simp only [narrow?, Option.map_eq_some_iff]
  constructor
  · rintro ⟨wide, hdecimal, hwithin, number, hnumber, rfl⟩
    rw [← toInt_of_toInt? hnumber] at hdecimal hwithin
    exact ⟨number, hdecimal, rfl, hwithin⟩
  · rintro ⟨number, hdecimal, rfl, hwithin⟩
    have hwide : number.toInt64.toInt = number.toInt := Int32.toInt_toInt64 number
    have hnumber : toInt? number.toInt64 = some number := by
      rw [toInt?, hwide, if_pos (contains_toInt32 number), Int32.ofInt_toInt]
    rw [← hwide] at hdecimal hwithin
    exact ⟨number.toInt64, hdecimal, hwithin, number, hnumber, rfl⟩

/-- The bounds decide about what is converted without them. -/
theorem convert_iff_plain (limit : Regex.SizeLimit) (plain : ConversionContext) :
    convert context text target = .ok value ↔
      (target = .element .int ∨ target = .element .long) ∧
        Plain.convert limit plain text target = .ok value ∧
        ∃ number ∈ value.integer?, range.least.toInt ≤ number ∧ number ≤ range.greatest.toInt := by
  constructor
  · intro h
    refine ⟨target_of_convert h, ?_⟩
    rcases target_of_convert h with rfl | rfl
    · obtain ⟨number, hdecimal, rfl, hwithin⟩ := (convert_int_iff hrange).1 h
      exact ⟨Plain.convert_int_iff.2 ⟨number, hdecimal, rfl⟩, _, rfl, hwithin⟩
    · obtain ⟨number, hdecimal, rfl, hwithin⟩ := (convert_long_iff hrange).1 h
      exact ⟨Plain.convert_long_iff.2 ⟨number, hdecimal, rfl⟩, _, rfl, hwithin⟩
  · rintro ⟨rfl | rfl, hplain, bounded, hbounded, hwithin⟩
    · obtain ⟨number, hdecimal, rfl⟩ := Plain.convert_int_iff.1 hplain
      cases hbounded
      exact (convert_int_iff hrange).2 ⟨number, hdecimal, rfl, hwithin⟩
    · obtain ⟨number, hdecimal, rfl⟩ := Plain.convert_long_iff.1 hplain
      cases hbounded
      exact (convert_long_iff hrange).2 ⟨number, hdecimal, rfl, hwithin⟩

end Bounds

/-- Bounds that all integers keep decide nothing. -/
theorem convert_all_iff_plain (hrange : rangeOf context = .ok .all) (limit : Regex.SizeLimit)
    (plain : ConversionContext) :
    convert context text target = .ok value ↔
      (target = .element .int ∨ target = .element .long) ∧
        Plain.convert limit plain text target = .ok value := by
  rw [convert_iff_plain hrange limit plain]
  refine and_congr_right fun htarget => and_iff_left_of_imp fun hplain => ?_
  rcases htarget with rfl | rfl
  · obtain ⟨number, -, rfl⟩ := Plain.convert_int_iff.1 hplain
    have hlong := LongRange.contains_all number.toInt64
    rw [Int32.toInt_toInt64] at hlong
    exact ⟨_, rfl, hlong⟩
  · obtain ⟨number, -, rfl⟩ := Plain.convert_long_iff.1 hplain
    exact ⟨_, rfl, LongRange.contains_all number⟩

/-- Within the bounds of an annotation a text is converted to an integer of either width exactly
if it is without the annotation and the integer keeps the bounds.  An option for integers that has
no annotation has no bounds. -/
theorem agrees_with_plain (option : String) (source? : Option OptionSource)
    (limit : Regex.SizeLimit) (plain : ConversionContext) (text : String) (target : OptionType) :
    (∀ (range : LongRange) (number : Int32),
      convert ⟨option, some (.integer range), source?⟩ text target = .ok (.int number) ↔
        Plain.convert limit plain text target = .ok (.int number) ∧
          range.least.toInt ≤ number.toInt ∧ number.toInt ≤ range.greatest.toInt) ∧
    (∀ (range : LongRange) (number : Int64),
      convert ⟨option, some (.integer range), source?⟩ text target = .ok (.long number) ↔
        Plain.convert limit plain text target = .ok (.long number) ∧
          range.least.toInt ≤ number.toInt ∧ number.toInt ≤ range.greatest.toInt) ∧
    ∀ value, convert ⟨option, none, source?⟩ text target = .ok value ↔
      (target = .element .int ∨ target = .element .long) ∧
        Plain.convert limit plain text target = .ok value := by
  refine ⟨fun range number => ?_, fun range number => ?_, fun value => ?_⟩
  · rw [convert_iff_plain rfl limit plain]
    simp only [Value.integer?, Option.mem_some_iff, exists_eq_left']
    exact and_iff_right_of_imp fun h => Or.inl (Plain.target_of_convert_int h.1)
  · rw [convert_iff_plain rfl limit plain]
    simp only [Value.integer?, Option.mem_some_iff, exists_eq_left']
    exact and_iff_right_of_imp fun h => Or.inr (Plain.target_of_convert_long h.1)
  · exact convert_all_iff_plain rfl limit plain

/-- The bounds may lie beyond what a short integer holds, and zeros may lead. -/
example (option : String) :
    convert ⟨option, some (.integer ⟨0, Int64.maxValue⟩), none⟩ "+0042" (.element .int) =
      .ok (.int 42) :=
  rfl

end RangedInteger

end TypedOptions
