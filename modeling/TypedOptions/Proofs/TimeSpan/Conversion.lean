import TypedOptions.Proofs.TimeSpan.Bounds

/-!
# Conversion of units

The size of a unit divides the sizes of all coarser ones.  So it does not
matter that sizes are divided by each other first: a conversion amounts to the
exact quotient, truncated toward zero and stopped at the ends of the 64-bit
range.  Only the multiplication has to stop there; all other numbers on the
way fit into 64 bits.
-/

namespace TypedOptions

/-! ## Steps of 64 bits -/

/-- The number, if 64 bits hold it. -/
def fit? (value : Int) : Option Int64 :=
  if IntegerRange.long.Contains value then some (Int64.ofInt value) else none

/-- Truncating division that overflows where 64 bits do not hold the quotient. -/
def divide? (value divisor : Int64) : Option Int64 :=
  if divisor = 0 then none else fit? (value.toInt.tdiv divisor.toInt)

/-- Multiplication that stops at the ends of the range. -/
def multiplySaturating (value factor : Int64) : Int64 :=
  Int64.ofInt (IntegerRange.long.clamp (value.toInt * factor.toInt))

theorem fit?_of_contains {value : Int} (hvalue : IntegerRange.long.Contains value) :
    fit? value = some (Int64.ofInt value) :=
  if_pos hvalue

theorem divide?_of_pos (value : Int64) {divisor : Int}
    (hdivisor : IntegerRange.long.Contains divisor) (hpos : 0 < divisor) :
    divide? value (Int64.ofInt divisor) = some (Int64.ofInt (value.toInt.tdiv divisor)) := by
  have hne : Int64.ofInt divisor ≠ 0 := by
    intro hzero
    have hsame := toInt_ofInt_of_contains hdivisor
    rw [hzero, Int64.toInt_zero] at hsame
    omega
  rw [divide?, if_neg hne, toInt_ofInt_of_contains hdivisor,
    fit?_of_contains (contains_tdiv value hpos)]

theorem IntegerRange.clamp_le_clamp (range : IntegerRange) {value other : Int}
    (hle : value ≤ other) : range.clamp value ≤ range.clamp other := by
  unfold clamp
  omega

namespace TimeUnit

/-- The conversion in steps of 64 bits; there is no result where one of them overflows. -/
def convert? (target : TimeUnit) (value : Int64) (source : TimeUnit) : Option Int64 := do
  let targetSize ← fit? target.nanos
  let sourceSize ← fit? source.nanos
  if targetSize ≤ sourceSize then
    let factor ← divide? sourceSize targetSize
    return multiplySaturating value factor
  else
    let divisor ← divide? targetSize sourceSize
    divide? value divisor

theorem contains_nanos (unit : TimeUnit) : IntegerRange.long.Contains unit.nanos := by
  cases unit <;> decide

theorem toInt_ofInt_nanos (unit : TimeUnit) : (Int64.ofInt unit.nanos).toInt = unit.nanos :=
  toInt_ofInt_of_contains unit.contains_nanos

/-- How many units fit into a coarser one is a positive number of 64 bits. -/
theorem ratio_pos_and_contains {finer coarser : TimeUnit} (hle : finer.nanos ≤ coarser.nanos) :
    0 < coarser.nanos / finer.nanos ∧
      IntegerRange.long.Contains (coarser.nanos / finer.nanos) := by
  have hpos : 0 < coarser.nanos / finer.nanos := Int.ediv_pos_of_pos_of_dvd coarser.nanos_pos
    (Int.le_of_lt finer.nanos_pos) (nanos_dvd hle)
  have hless : coarser.nanos / finer.nanos ≤ coarser.nanos :=
    Int.ediv_le_self _ (Int.le_of_lt coarser.nanos_pos)
  have hleast : IntegerRange.long.least ≤ 0 := by decide
  exact ⟨hpos, by omega, Int.le_trans hless coarser.contains_nanos.2⟩

theorem divide?_nanos (first second : TimeUnit) :
    divide? (Int64.ofInt first.nanos) (Int64.ofInt second.nanos) =
      some (Int64.ofInt (first.nanos / second.nanos)) := by
  rw [divide?_of_pos _ second.contains_nanos second.nanos_pos, toInt_ofInt_nanos,
    Int.tdiv_eq_ediv_of_nonneg (Int.le_of_lt first.nanos_pos)]

/-- No step of a conversion overflows. -/
theorem convert?_eq_some (target : TimeUnit) (value : Int64) (source : TimeUnit) :
    target.convert? value source = some (target.convert value source) := by
  have hcompare : Int64.ofInt target.nanos ≤ Int64.ofInt source.nanos ↔
      target.nanos ≤ source.nanos := by
    rw [Int64.le_iff_toInt_le, toInt_ofInt_nanos, toInt_ofInt_nanos]
  unfold convert? convert
  simp only [fit?_of_contains target.contains_nanos, fit?_of_contains source.contains_nanos,
    Option.bind_eq_bind, Option.bind_some, hcompare]
  split
  · rename_i hle
    rw [divide?_nanos, Option.bind_some, multiplySaturating,
      toInt_ofInt_of_contains (ratio_pos_and_contains hle).2]
    rfl
  · rename_i hless
    obtain ⟨hpos, hratio⟩ := ratio_pos_and_contains (Int.le_of_lt (Int.not_le.1 hless))
    rw [divide?_nanos, Option.bind_some, divide?_of_pos value hratio hpos]

/-! ## The number of units -/

theorem toInt_convert (target : TimeUnit) (value : Int64) (source : TimeUnit) :
    (target.convert value source).toInt =
      IntegerRange.long.clamp ((value.toInt * source.nanos).tdiv target.nanos) :=
  TimeSpan.toInt_asUnit ⟨value, source⟩ target

theorem convert_le_convert (target source : TimeUnit) {value other : Int64}
    (hle : value ≤ other) : target.convert value source ≤ target.convert other source := by
  rw [Int64.le_iff_toInt_le] at hle ⊢
  rw [toInt_convert, toInt_convert]
  apply IntegerRange.clamp_le_clamp
  apply Int.tdiv_le_tdiv target.nanos_pos
  exact Int.mul_le_mul_of_nonneg_right hle (Int.le_of_lt source.nanos_pos)

/-- A finer unit loses nothing, as long as the range holds the number of units. -/
theorem convert_convert_of_finer {finer coarser : TimeUnit} {value : Int64}
    (hle : finer.nanos ≤ coarser.nanos)
    (hfits : IntegerRange.long.Contains ((value.toInt * coarser.nanos).tdiv finer.nanos)) :
    coarser.convert (finer.convert value coarser) finer = value := by
  have hexact : (value.toInt * coarser.nanos).tdiv finer.nanos * finer.nanos =
      value.toInt * coarser.nanos :=
    Int.tdiv_mul_cancel (Int.dvd_mul_of_dvd_right (nanos_dvd hle))
  apply Int64.toInt_inj.1
  rw [toInt_convert, toInt_convert, IntegerRange.clamp_of_contains hfits, hexact,
    Int.mul_tdiv_cancel _ (Int.ne_of_gt coarser.nanos_pos)]
  exact IntegerRange.clamp_of_contains (contains_toInt64 value)

end TimeUnit

theorem TimeSpan.duration_eq (t : TimeSpan) :
    (t.duration : Int) = max 0 (min Int64.maxValue.toInt t.nanos) := by
  have hnanos : t.wholeUnits .nanoseconds = t.nanos := Int.tdiv_one _
  have hgreatest : Int64.maxValue.toInt = 9223372036854775807 := by decide
  unfold duration
  rw [toInt_asUnit, hnanos, hgreatest]
  simp only [IntegerRange.clamp, IntegerRange.long]
  omega

/-- A conversion gives the exact quotient, truncated toward zero and then stopped at the ends of
the range, and no step on the way overflows.  It is monotone, and a conversion to a finer unit can
be taken back unless it was stopped.  The length of a time span is stopped in the same way, and at
zero. -/
theorem TimeUnit.conversion_truncates_and_stops (target source : TimeUnit) (value : Int64) :
    target.convert? value source = some (target.convert value source) ∧
    (target.convert value source).toInt =
      max Int64.minValue.toInt
        (min ((value.toInt * source.nanos).tdiv target.nanos) Int64.maxValue.toInt) ∧
    (∀ other, value ≤ other → target.convert value source ≤ target.convert other source) ∧
    (target.nanos ≤ source.nanos →
      IntegerRange.long.Contains ((value.toInt * source.nanos).tdiv target.nanos) →
        source.convert (target.convert value source) target = value) ∧
    ∀ t : TimeSpan, (t.duration : Int) =
      max 0 (min Int64.maxValue.toInt (t.span.toInt * t.unit.nanos)) := by
  refine ⟨convert?_eq_some target value source, ?_, ?_, convert_convert_of_finer,
    TimeSpan.duration_eq⟩
  · rw [toInt_convert]
    rfl
  · exact fun other hle => convert_le_convert target source hle

/-- The greatest number of hours that nanoseconds hold comes back from them; one hour more is
stopped. -/
theorem TimeUnit.conversion_truncates_and_stops_sample :
    nanoseconds.nanos ≤ hours.nanos ∧
      IntegerRange.long.Contains (((2562047 : Int64).toInt * hours.nanos).tdiv nanoseconds.nanos) ∧
      hours.convert (nanoseconds.convert 2562047 hours) nanoseconds = 2562047 ∧
      nanoseconds.convert? 2562048 hours = some Int64.maxValue ∧
      (⟨2562048, .hours⟩ : TimeSpan).duration = 9223372036854775807 := by
  have hfiner : nanoseconds.nanos ≤ hours.nanos := by decide
  have hfits : IntegerRange.long.Contains
      (((2562047 : Int64).toInt * hours.nanos).tdiv nanoseconds.nanos) := by decide
  obtain ⟨-, -, -, hback, -⟩ := conversion_truncates_and_stops nanoseconds hours 2562047
  obtain ⟨hsteps, -, -, -, hlength⟩ := conversion_truncates_and_stops nanoseconds hours 2562048
  refine ⟨hfiner, hfits, hback hfiner hfits, ?_, ?_⟩
  · rw [hsteps]
    decide
  · have hstopped := hlength ⟨2562048, .hours⟩
    exact Int.ofNat_inj.1 (hstopped.trans (by decide))

end TypedOptions
