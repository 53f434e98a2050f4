import Mathlib.Tactic.Linarith
import TypedOptions.Proofs.Outcome
import TypedOptions.Proofs.TimeSpan

/-!
# Time spans within bounds

The bounds of an annotation apply to the number of whole code units, which
stops at the ends of the 64-bit range.  What a span has beyond its whole units
is dropped toward zero, so a span that is accepted can be outside the bounds
by less than a unit; and a bound at an end of the range bounds nothing.
-/

namespace TypedOptions

/-! ## Whole units -/

namespace IntegerRange

theorem contains_clamp {range : IntegerRange} (hrange : range.least ≤ range.greatest)
    (value : Int) : range.Contains (range.clamp value) := by
  unfold Contains clamp
  omega

theorem clamp_of_contains {range : IntegerRange} {value : Int} (hvalue : range.Contains value) :
    range.clamp value = value := by
  unfold Contains at hvalue
  unfold clamp
  omega

theorem le_of_le_clamp {range : IntegerRange} {bound value : Int}
    (hle : bound ≤ range.clamp value) :
    bound ≤ value ∨ value < range.least ∧ bound ≤ range.least := by
  unfold clamp at hle
  omega

theorem le_of_clamp_le {range : IntegerRange} {bound value : Int}
    (hle : range.clamp value ≤ bound) :
    value ≤ bound ∨ range.greatest < value ∧ range.greatest ≤ bound := by
  unfold clamp at hle
  omega

end IntegerRange

theorem contains_tdiv (value : Int64) {size : Int} (hsize : 0 < size) :
    IntegerRange.long.Contains (value.toInt.tdiv size) := by
  have hvalue := contains_toInt64 value
  have hmagnitude : (value.toInt.tdiv size).natAbs ≤ value.toInt.natAbs := by
    rw [Int.natAbs_tdiv]
    exact Nat.div_le_self _ _
  have hnonneg : 0 ≤ value.toInt → 0 ≤ value.toInt.tdiv size :=
    fun hsign => Int.tdiv_nonneg hsign (Int.le_of_lt hsize)
  have hnonpos : value.toInt ≤ 0 → value.toInt.tdiv size ≤ 0 := by
    intro hsign
    have hopposite := Int.tdiv_nonneg (Int.neg_nonneg_of_nonpos hsign) (Int.le_of_lt hsize)
    rw [Int.neg_tdiv] at hopposite
    omega
  simp only [IntegerRange.Contains, IntegerRange.long] at hvalue ⊢
  omega

theorem TimeUnit.nanos_dvd {finer coarser : TimeUnit} (hle : finer.nanos ≤ coarser.nanos) :
    finer.nanos ∣ coarser.nanos := by
  cases finer <;> cases coarser <;> revert hle <;> decide

namespace TimeSpan

/-- The exact length in nanoseconds. -/
def nanos (t : TimeSpan) : Int :=
  t.span.toInt * t.unit.nanos

/-- How many units the span has, what is left of one being dropped. -/
def wholeUnits (t : TimeSpan) (unit : TimeUnit) : Int :=
  t.nanos.tdiv unit.nanos

theorem wholeUnits_of_finer {t : TimeSpan} {unit : TimeUnit} (hle : unit.nanos ≤ t.unit.nanos) :
    t.wholeUnits unit = t.span.toInt * (t.unit.nanos / unit.nanos) := by
  obtain ⟨count, hcount⟩ := TimeUnit.nanos_dvd hle
  have hne : unit.nanos ≠ 0 := Int.ne_of_gt unit.nanos_pos
  rw [wholeUnits, nanos, hcount, Int.mul_ediv_cancel_left _ hne, Int.mul_left_comm,
    Int.mul_tdiv_cancel_left _ hne]

theorem wholeUnits_of_coarser {t : TimeSpan} {unit : TimeUnit} (hle : t.unit.nanos ≤ unit.nanos) :
    t.wholeUnits unit = t.span.toInt.tdiv (unit.nanos / t.unit.nanos) := by
  obtain ⟨count, hcount⟩ := TimeUnit.nanos_dvd hle
  have hpos := t.unit.nanos_pos
  rw [wholeUnits, nanos, hcount, Int.mul_ediv_cancel_left _ (Int.ne_of_gt hpos), Int.mul_comm,
    Int.mul_tdiv_mul_of_pos _ _ hpos]

theorem contains_wholeUnits {t : TimeSpan} {unit : TimeUnit} (hle : t.unit.nanos ≤ unit.nanos) :
    IntegerRange.long.Contains (t.wholeUnits unit) := by
  obtain ⟨count, hcount⟩ := TimeUnit.nanos_dvd hle
  have hpos := t.unit.nanos_pos
  rw [wholeUnits_of_coarser hle]
  apply contains_tdiv
  rw [hcount, Int.mul_ediv_cancel_left _ (Int.ne_of_gt hpos)]
  exact Int.pos_of_mul_pos_right (hcount ▸ unit.nanos_pos) hpos

/-- A conversion counts whole units and stops at the ends of the range. -/
theorem toInt_asUnit (t : TimeSpan) (unit : TimeUnit) :
    (t.asUnit unit).toInt = IntegerRange.long.clamp (t.wholeUnits unit) := by
  unfold asUnit TimeUnit.convert
  split
  · rename_i hle
    rw [wholeUnits_of_finer hle]
    exact toInt_ofInt_of_contains (IntegerRange.contains_clamp (by decide) _)
  · rename_i hless
    have hle : t.unit.nanos ≤ unit.nanos := by omega
    have hcontains := contains_wholeUnits hle
    rw [IntegerRange.clamp_of_contains hcontains]
    rw [wholeUnits_of_coarser hle] at hcontains ⊢
    exact toInt_ofInt_of_contains hcontains

end TimeSpan

/-! ## Bounds on whole units -/

theorem mul_le_of_le_tdiv {bound amount size : Int} (hsize : 0 < size)
    (hle : bound ≤ amount.tdiv size) :
    bound * size ≤ amount ∨ bound ≤ 0 ∧ (bound - 1) * size < amount := by
  by_cases hamount : 0 ≤ amount
  · rw [Int.tdiv_eq_ediv_of_nonneg hamount] at hle
    exact Or.inl (Int.mul_le_of_le_ediv hsize hle)
  · have hopposite := Int.tdiv_eq_ediv_of_nonneg (b := size) (by omega : 0 ≤ -amount)
    have hquotient : 0 ≤ -amount / size := Int.ediv_nonneg (by omega) (Int.le_of_lt hsize)
    rw [Int.neg_tdiv] at hopposite
    have hless : -amount < (1 - bound) * size := Int.lt_mul_of_ediv_lt hsize (by omega)
    exact Or.inr ⟨by omega, by linarith⟩

theorem le_mul_of_tdiv_le {bound amount size : Int} (hsize : 0 < size)
    (hle : amount.tdiv size ≤ bound) :
    amount ≤ bound * size ∨ 0 ≤ bound ∧ amount < (bound + 1) * size := by
  have hopposite : -bound ≤ (-amount).tdiv size := by
    rw [Int.neg_tdiv]
    omega
  rcases mul_le_of_le_tdiv hsize hopposite with hexact | ⟨hsign, hless⟩
  · exact Or.inl (by linarith)
  · exact Or.inr ⟨by omega, by linarith⟩

namespace TimeSpan

theorem nanos_eq_of_finer {t : TimeSpan} {unit : TimeUnit} (hle : unit.nanos ≤ t.unit.nanos) :
    t.nanos = t.wholeUnits unit * unit.nanos :=
  (Int.tdiv_mul_cancel (Int.dvd_mul_of_dvd_right (TimeUnit.nanos_dvd hle))).symm

theorem coarser_of_not_contains {t : TimeSpan} {unit : TimeUnit}
    (houtside : ¬IntegerRange.long.Contains (t.wholeUnits unit)) : unit.nanos < t.unit.nanos := by
  by_contra hless
  exact houtside (contains_wholeUnits (Int.not_lt.1 hless))

theorem mul_le_nanos {t : TimeSpan} {unit : TimeUnit} {bound : Int}
    (hle : bound ≤ t.wholeUnits unit) :
    bound * unit.nanos ≤ t.nanos ∨
      t.unit.nanos < unit.nanos ∧ bound ≤ 0 ∧ (bound - 1) * unit.nanos < t.nanos := by
  by_cases hfiner : t.unit.nanos < unit.nanos
  · exact (mul_le_of_le_tdiv unit.nanos_pos hle).imp_right fun hdropped => ⟨hfiner, hdropped⟩
  · rw [nanos_eq_of_finer (Int.not_lt.1 hfiner)]
    exact Or.inl (Int.mul_le_mul_of_nonneg_right hle (Int.le_of_lt unit.nanos_pos))

theorem nanos_le_mul {t : TimeSpan} {unit : TimeUnit} {bound : Int}
    (hle : t.wholeUnits unit ≤ bound) :
    t.nanos ≤ bound * unit.nanos ∨
      t.unit.nanos < unit.nanos ∧ 0 ≤ bound ∧ t.nanos < (bound + 1) * unit.nanos := by
  by_cases hfiner : t.unit.nanos < unit.nanos
  · exact (le_mul_of_tdiv_le unit.nanos_pos hle).imp_right fun hdropped => ⟨hfiner, hdropped⟩
  · rw [nanos_eq_of_finer (Int.not_lt.1 hfiner)]
    exact Or.inl (Int.mul_le_mul_of_nonneg_right hle (Int.le_of_lt unit.nanos_pos))

/-- A span is not below a bound that its number of whole units keeps, unless what was dropped took
it there, or the bound is where the numbers stop. -/
theorem least_mul_le_nanos {t : TimeSpan} {unit : TimeUnit} {least : Int64}
    (hle : least.toInt ≤ (t.asUnit unit).toInt) :
    least.toInt * unit.nanos ≤ t.nanos ∨
      t.unit.nanos < unit.nanos ∧ least.toInt ≤ 0 ∧
        (least.toInt - 1) * unit.nanos < t.nanos ∨
      unit.nanos < t.unit.nanos ∧ least = Int64.minValue := by
  rw [toInt_asUnit] at hle
  rcases IntegerRange.le_of_le_clamp hle with hwhole | ⟨hbelow, hend⟩
  · exact (mul_le_nanos hwhole).imp_right Or.inl
  · refine Or.inr (Or.inr ⟨coarser_of_not_contains fun hcontains => ?_, ?_⟩)
    · exact absurd hcontains.1 (Int.not_le.2 hbelow)
    · exact Int64.toInt_inj.1 (Int.le_antisymm hend (contains_toInt64 least).1)

theorem nanos_le_greatest_mul {t : TimeSpan} {unit : TimeUnit} {greatest : Int64}
    (hle : (t.asUnit unit).toInt ≤ greatest.toInt) :
    t.nanos ≤ greatest.toInt * unit.nanos ∨
      t.unit.nanos < unit.nanos ∧ 0 ≤ greatest.toInt ∧
        t.nanos < (greatest.toInt + 1) * unit.nanos ∨
      unit.nanos < t.unit.nanos ∧ greatest = Int64.maxValue := by
  rw [toInt_asUnit] at hle
  rcases IntegerRange.le_of_clamp_le hle with hwhole | ⟨habove, hend⟩
  · exact (nanos_le_mul hwhole).imp_right Or.inl
  · refine Or.inr (Or.inr ⟨coarser_of_not_contains fun hcontains => ?_, ?_⟩)
    · exact absurd hcontains.2 (Int.not_le.2 habove)
    · exact Int64.toInt_inj.1 (Int.le_antisymm (contains_toInt64 greatest).2 hend)

end TimeSpan

/-! ## Conversion -/

namespace RangedSpan

/-- The number of whole code units of an accepted span, as far as 64 bits hold it, is in the range.
So the span keeps both bounds, up to what was dropped of a unit where it is written in a finer one,
and but for bounds at the ends of the 64-bit range where it is written in a coarser one. -/
theorem accepted_up_to_a_unit {context : ConversionContext} {rule : SpanAnnotation} {text : String}
    {span : TimeSpan} (hannotated : context.annotation? = some (.timeSpan rule))
    (hconvert : convert context text (.element .timeSpan) = .ok (.timeSpan span)) :
    (rule.range.least.toInt ≤
        IntegerRange.long.clamp (span.nanos.tdiv rule.codeUnit.nanos) ∧
      IntegerRange.long.clamp (span.nanos.tdiv rule.codeUnit.nanos) ≤
        rule.range.greatest.toInt) ∧
    (rule.range.least.toInt * rule.codeUnit.nanos ≤ span.nanos ∨
      span.unit.nanos < rule.codeUnit.nanos ∧ rule.range.least.toInt ≤ 0 ∧
        (rule.range.least.toInt - 1) * rule.codeUnit.nanos < span.nanos ∨
      rule.codeUnit.nanos < span.unit.nanos ∧ rule.range.least = Int64.minValue) ∧
    (span.nanos ≤ rule.range.greatest.toInt * rule.codeUnit.nanos ∨
      span.unit.nanos < rule.codeUnit.nanos ∧ 0 ≤ rule.range.greatest.toInt ∧
        span.nanos < (rule.range.greatest.toInt + 1) * rule.codeUnit.nanos ∨
      rule.codeUnit.nanos < span.unit.nanos ∧ rule.range.greatest = Int64.maxValue) := by
  obtain ⟨read, -, hinside, hspan⟩ := (convert_eq_ok_iff hannotated).1 hconvert
  cases hspan
  obtain ⟨hleast, hgreatest⟩ := LongRange.contains_iff.1 hinside
  refine ⟨?_, TimeSpan.least_mul_le_nanos hleast, TimeSpan.nanos_le_greatest_mul hgreatest⟩
  rw [TimeSpan.toInt_asUnit] at hleast hgreatest
  exact ⟨hleast, hgreatest⟩

/-! ## Samples -/

def sampleContext : ConversionContext :=
  ⟨"limits.time", some (.timeSpan ⟨.seconds, .seconds, ⟨5, 3600⟩⟩), none⟩

/-- The milliseconds behind the last second are dropped before the range is looked at. -/
theorem accepted_beyond_range :
    convert sampleContext "3600999ms" (.element .timeSpan) =
        .ok (.timeSpan ⟨3600999, .milliseconds⟩) ∧
      ¬(⟨3600999, .milliseconds⟩ : TimeSpan).nanos ≤
        (3600 : Int64).toInt * TimeUnit.seconds.nanos :=
  ⟨rfl, by decide⟩

theorem accepted_up_to_a_unit_sample :
    convert sampleContext "3600999ms" (.element .timeSpan) =
        .ok (.timeSpan ⟨3600999, .milliseconds⟩) ∧
      5 * TimeUnit.seconds.nanos ≤ (⟨3600999, .milliseconds⟩ : TimeSpan).nanos ∧
      (⟨3600999, .milliseconds⟩ : TimeSpan).nanos < 3601 * TimeUnit.seconds.nanos := by
  have haccepted : convert sampleContext "3600999ms" (.element .timeSpan) =
      .ok (.timeSpan ⟨3600999, .milliseconds⟩) := rfl
  obtain ⟨-, hleast, hgreatest⟩ := accepted_up_to_a_unit rfl haccepted
  refine ⟨haccepted, ?_, ?_⟩
  · rcases hleast with hkept | ⟨-, hsign, -⟩ | ⟨hcoarser, -⟩
    · exact hkept
    · exact absurd hsign (by decide)
    · exact absurd hcoarser (by decide)
  · rcases hgreatest with hkept | ⟨-, -, hdropped⟩ | ⟨hcoarser, -⟩
    · exact lt_of_le_of_lt hkept (by decide)
    · exact hdropped
    · exact absurd hcoarser (by decide)

end RangedSpan

end TypedOptions
