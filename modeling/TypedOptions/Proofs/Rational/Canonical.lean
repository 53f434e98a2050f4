import Mathlib.Data.Rat.Lemmas
import TypedOptions.Proofs.Rational.Range

/-!
# One number for one fraction

A number in lowest terms is the quotient of the fraction that it was made of,
and no other number in lowest terms is.  So two fractions lead to the same
number exactly if they have the same quotient.
-/

namespace TypedOptions.Rational

/-- The quotient that the number stands for. -/
def quotient (r : Rational) : ℚ :=
  r.numerator.toInt / r.denominator.toInt

theorem quotient_eq_iff_denotes {r : Rational} {numerator denominator : Int}
    (hr : r.denominator.toInt ≠ 0) (hdenominator : denominator ≠ 0) :
    r.quotient = numerator / denominator ↔ r.Denotes numerator denominator := by
  have hbelow : (r.denominator.toInt : ℚ) ≠ 0 := Int.cast_ne_zero.2 hr
  have hother : (denominator : ℚ) ≠ 0 := Int.cast_ne_zero.2 hdenominator
  rw [quotient, div_eq_div_iff hbelow hother, Denotes]
  norm_cast

theorem IsReduced.denominator_ne_zero {r : Rational} (hreduced : r.IsReduced) :
    r.denominator.toInt ≠ 0 :=
  Int.ne_of_gt hreduced.positive

theorem IsReduced.eq_iff_quotient_eq {first second : Rational} (hfirst : first.IsReduced)
    (hsecond : second.IsReduced) : first = second ↔ first.quotient = second.quotient := by
  rw [hfirst.eq_iff_denotes hsecond]
  exact (quotient_eq_iff_denotes hfirst.denominator_ne_zero hsecond.denominator_ne_zero).symm

theorem denotes_of_ofFraction {numerator denominator : Int64} {r : Rational}
    (hfraction : ofFraction numerator denominator = .ok r) :
    denominator ≠ 0 ∧ r.Denotes numerator.toInt denominator.toInt := by
  obtain ⟨hzero, -⟩ := ofFraction_eq_ok_iff.1 hfraction
  obtain ⟨-, hdenotes, -⟩ := (ofFraction_eq_ok_iff_denotes hzero).1 hfraction
  exact ⟨hzero, hdenotes⟩

theorem quotient_of_ofFraction {numerator denominator : Int64} {r : Rational}
    (hfraction : ofFraction numerator denominator = .ok r) :
    r.quotient = numerator.toInt / denominator.toInt := by
  obtain ⟨hzero, hdenotes⟩ := denotes_of_ofFraction hfraction
  have hne : denominator.toInt ≠ 0 := fun heq => hzero (Int64.toInt_inj.1 heq)
  have hreduced := isReduced_of_ofFraction hfraction
  exact (quotient_eq_iff_denotes hreduced.denominator_ne_zero hne).2 hdenotes

/-- What a fraction is brought to is in lowest terms and stands for the fraction.  Fractions with
the same quotient, and no others, are brought to the same number; and the number is read back from
its text, with nothing on the way that leaves the range. -/
theorem lowest_terms_canonical {numerator denominator : Int64} {r : Rational}
    (hfraction : ofFraction numerator denominator = .ok r) :
    0 < r.denominator.toInt ∧
    Int.gcd r.numerator.toInt r.denominator.toInt = 1 ∧
    numerator.toInt * r.denominator.toInt = r.numerator.toInt * denominator.toInt ∧
    (∀ (above below : Int64) (s : Rational), ofFraction above below = .ok s →
      (r = s ↔ (numerator.toInt : ℚ) / denominator.toInt = above.toInt / below.toInt)) ∧
    read r.toText = .ok r := by
  have hreduced := isReduced_of_ofFraction hfraction
  obtain ⟨-, hdenotes⟩ := denotes_of_ofFraction hfraction
  refine ⟨hreduced.positive, hreduced.coprime, hdenotes.symm, ?_, read_toText hreduced⟩
  intro above below s hother
  rw [hreduced.eq_iff_quotient_eq (isReduced_of_ofFraction hother),
    quotient_of_ofFraction hfraction, quotient_of_ofFraction hother]

/-- At the least integer, a fraction and another one that is brought to the same number. -/
theorem lowest_terms_canonical_sample :
    ofFraction Int64.minValue 6 = .ok ⟨-4611686018427387904, 3⟩ ∧
      ofFraction 4611686018427387904 (-3) = .ok ⟨-4611686018427387904, 3⟩ ∧
      (Int64.minValue.toInt : ℚ) / (6 : Int64).toInt =
        (4611686018427387904 : Int64).toInt / (-3 : Int64).toInt ∧
      ofFraction Int64.minValue 3 = .ok ⟨Int64.minValue, 3⟩ ∧
      read "-9223372036854775808/3" = .ok ⟨Int64.minValue, 3⟩ := by
  have hfirst : ofFraction Int64.minValue 6 = .ok ⟨-4611686018427387904, 3⟩ := by
    decide +kernel
  have hsecond : ofFraction 4611686018427387904 (-3) = .ok ⟨-4611686018427387904, 3⟩ := by
    decide +kernel
  have hedge : ofFraction Int64.minValue 3 = .ok ⟨Int64.minValue, 3⟩ := by
    decide +kernel
  obtain ⟨-, -, -, hsame, -⟩ := lowest_terms_canonical hfirst
  obtain ⟨-, -, -, -, hread⟩ := lowest_terms_canonical hedge
  exact ⟨hfirst, hsecond, (hsame _ _ _ hsecond).1 rfl, hedge, hread⟩

end TypedOptions.Rational
