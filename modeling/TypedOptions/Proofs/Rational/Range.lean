import Mathlib.Tactic.Linarith
import Mathlib.Tactic.Ring
import TypedOptions.Proofs.Rational.LowestTerms

/-!
# Fractions that leave the range

A fraction is brought into lowest terms by steps of 64 bits.  They end with
the right number whenever it can be held, with one exception: the least
integer is no divisor, since its absolute value leaves the range.
-/

namespace TypedOptions

theorem eq_overflow_of_checkedLong {value : Int} {error : RationalError}
    (herror : checkedLong value = .error error) : error = .overflow := by
  unfold checkedLong at herror
  split at herror
  · cases herror
  · cases herror
    rfl

theorem exists_checkedLong_iff {value : Int} :
    (∃ result, checkedLong value = .ok result) ↔ IntegerRange.long.Contains value := by
  constructor
  · rintro ⟨result, hresult⟩
    exact checkedLong_eq_ok_iff.1 hresult ▸ contains_toInt64 result
  · intro hcontains
    exact ⟨_, if_pos hcontains⟩

namespace Rational

/-! ## The greatest common divisor -/

theorem eq_overflow_of_commonDivisor {a b : Int} {error : RationalError}
    (herror : commonDivisor a b = .error error) : error = .overflow := by
  induction a, b using commonDivisor.induct with
  | case1 a =>
      rw [commonDivisor, if_pos rfl] at herror
      exact eq_overflow_of_checkedLong herror
  | case2 a b hzero hoverflow =>
      rw [commonDivisor, if_neg hzero, if_pos hoverflow] at herror
      cases herror
      rfl
  | case3 a b hzero hoverflow ih =>
      rw [commonDivisor, if_neg hzero, if_neg hoverflow] at herror
      exact ih herror

/-- Of the divisions only that of the least integer by minus one leaves the range, which comes up
at once or after the two have changed places. -/
theorem commonDivisor_of_contains {a b : Int} (ha : IntegerRange.long.Contains a)
    (hb : IntegerRange.long.Contains b) (hfirst : ¬(a = IntegerRange.long.least ∧ b = -1))
    (hsecond : ¬(a = -1 ∧ b = IntegerRange.long.least)) :
    commonDivisor a b = checkedLong (Int.gcd a b) := by
  simp only [IntegerRange.Contains, IntegerRange.long] at ha hb hfirst hsecond
  by_cases hleast : b = -9223372036854775808
  · have hmagnitude : (a.tmod b).natAbs = a.natAbs % 9223372036854775808 := by
      rw [Int.natAbs_tmod, hleast]
      rfl
    have hsign : 0 ≤ a → 0 ≤ a.tmod b := Int.tmod_nonneg b
    rw [commonDivisor, if_neg (by omega), if_neg (by omega), commonDivisor_eq, gcd_tmod]
    · omega
    · simp only [IntegerRange.long]
      omega
  · apply commonDivisor_eq
    · simp only [IntegerRange.long]
      omega
    · simp only [IntegerRange.long]
      omega

/-- The absolute value of the least integer, which no integer has, divides both. -/
def DividedByLeast (numerator denominator : Int64) : Prop :=
  denominator.toInt = IntegerRange.long.least ∧
    (numerator.toInt = 0 ∨ numerator.toInt = IntegerRange.long.least)

instance (numerator denominator : Int64) : Decidable (DividedByLeast numerator denominator) :=
  inferInstanceAs (Decidable (_ ∧ _))

theorem contains_gcd_iff {numerator denominator : Int64} (hzero : denominator.toInt ≠ 0) :
    IntegerRange.long.Contains (Int.gcd numerator.toInt denominator.toInt) ↔
      ¬DividedByLeast numerator denominator := by
  have hnumerator := contains_toInt64 numerator
  have hdenominator := contains_toInt64 denominator
  unfold DividedByLeast
  simp only [IntegerRange.Contains, IntegerRange.long] at hnumerator hdenominator ⊢
  constructor
  · rintro ⟨-, hgreatest⟩ ⟨hleast, hzero | hsame⟩
    · rw [hleast, hzero] at hgreatest
      exact absurd hgreatest (by decide)
    · rw [hleast, hsame] at hgreatest
      exact absurd hgreatest (by decide)
  · intro hexcept
    have hbound := Int.gcd_le_natAbs_right numerator.toInt hzero
    -- A divisor as large as this one has only the numerators zero and itself.
    have hmultiple : numerator.toInt = 0 ∨
        Int.gcd numerator.toInt denominator.toInt ≤ numerator.toInt.natAbs := by
      by_cases hnone : numerator.toInt = 0
      · exact Or.inl hnone
      · exact Or.inr (Int.gcd_le_natAbs_left _ hnone)
    omega

/-! ## Lowest terms -/

theorem eq_overflow_of_ofFraction {numerator denominator : Int64} {error : RationalError}
    (hzero : denominator ≠ 0) (herror : ofFraction numerator denominator = .error error) :
    error = .overflow := by
  rw [ofFraction_of_ne_zero hzero] at herror
  rcases bind_eq_error_iff.1 herror with hdivisor | ⟨divisor, -, herror⟩
  · exact eq_overflow_of_commonDivisor hdivisor
  · rcases bind_eq_error_iff.1 herror with habove | ⟨above, -, herror⟩
    · exact eq_overflow_of_checkedLong habove
    · rcases bind_eq_error_iff.1 herror with hbelow | ⟨below, -, hdone⟩
      · exact eq_overflow_of_checkedLong hbelow
      · cases hdone

theorem denotes_of_quotients {r : Rational} {numerator denominator divisor sign first second : Int}
    (hnumerator : numerator = first * divisor) (hdenominator : denominator = second * divisor)
    (habove : r.numerator.toInt = sign * first) (hbelow : r.denominator.toInt = sign * second) :
    r.Denotes numerator denominator := by
  unfold Denotes
  rw [habove, hbelow, hnumerator, hdenominator]
  ring

/-- The number in lowest terms is found wherever it can be held, but for the fractions that the
absolute value of the least integer divides. -/
theorem ofFraction_eq_ok_iff_denotes {numerator denominator : Int64} {r : Rational}
    (hzero : denominator ≠ 0) :
    ofFraction numerator denominator = .ok r ↔
      r.IsReduced ∧ r.Denotes numerator.toInt denominator.toInt ∧
        ¬DividedByLeast numerator denominator := by
  have hne : denominator.toInt ≠ 0 := fun heq => hzero (Int64.toInt_inj.1 heq)
  constructor
  · intro hfraction
    obtain ⟨-, divisor, hdivisor, habove, hbelow⟩ := ofFraction_eq_ok_iff.1 hfraction
    refine ⟨isReduced_of_ofFraction hfraction, ?_, ?_⟩
    · obtain ⟨-, first, second, -, hnumerator, hfirst, hdenominator, hsecond⟩ :=
        exists_quotients hdivisor hne
      rw [hfirst] at habove
      rw [hsecond] at hbelow
      exact denotes_of_quotients hnumerator hdenominator habove hbelow
    · rw [← contains_gcd_iff hne, ← toInt_commonDivisor hdivisor]
      exact contains_toInt64 divisor
  · rintro ⟨hreduced, hdenotes, hexcept⟩
    have hpositive := hreduced.positive
    have hnumerator := contains_toInt64 r.numerator
    have hdenominator := contains_toInt64 r.denominator
    unfold Denotes at hdenotes
    simp only [IntegerRange.Contains, IntegerRange.long] at hnumerator hdenominator
    have hcommon : commonDivisor numerator.toInt denominator.toInt =
        checkedLong (Int.gcd numerator.toInt denominator.toInt) := by
      -- The two divisions that leave the range belong to numbers that cannot be held.
      apply commonDivisor_of_contains (contains_toInt64 numerator) (contains_toInt64 denominator)
      · rintro ⟨hleast, hminusOne⟩
        rw [hleast, hminusOne] at hdenotes
        simp only [IntegerRange.long] at hdenotes
        omega
      · rintro ⟨hminusOne, hleast⟩
        rw [hminusOne, hleast] at hdenotes
        simp only [IntegerRange.long] at hdenotes
        omega
    obtain ⟨divisor, hdivisor⟩ := exists_checkedLong_iff.2 ((contains_gcd_iff hne).2 hexcept)
    rw [← hcommon] at hdivisor
    obtain ⟨hdivisorPos, first, second, hcoprime, habove, hfirst, hbelow, hsecond⟩ :=
      exists_quotients hdivisor hne
    have hcross : r.numerator.toInt * (signOf denominator.toInt * second) =
        signOf denominator.toInt * first * r.denominator.toInt := by
      have hscaled : r.numerator.toInt * second * divisor.toInt =
          first * r.denominator.toInt * divisor.toInt := by
        rw [habove, hbelow] at hdenotes
        linarith
      have hcancelled := Int.eq_of_mul_eq_mul_right (by omega) hscaled
      calc r.numerator.toInt * (signOf denominator.toInt * second)
          = signOf denominator.toInt * (r.numerator.toInt * second) := by ring
        _ = signOf denominator.toInt * first * r.denominator.toInt := by rw [hcancelled]; ring
    obtain ⟨hsameAbove, hsameBelow⟩ := eq_of_lowest_terms hpositive
      (signOf_mul_pos hne hdivisorPos hbelow) hreduced.coprime
      ((gcd_signOf_mul _ _ _).trans hcoprime) hcross
    exact ofFraction_eq_ok_iff.2 ⟨hzero, divisor, hdivisor, by rw [hfirst, hsameAbove],
      by rw [hsecond, hsameBelow]⟩

/-- Every other fraction ends the program. -/
theorem ofFraction_eq_overflow_iff {numerator denominator : Int64} (hzero : denominator ≠ 0) :
    ofFraction numerator denominator = .error .overflow ↔
      DividedByLeast numerator denominator ∨
        ¬∃ r : Rational, r.IsReduced ∧ r.Denotes numerator.toInt denominator.toInt := by
  cases houtcome : ofFraction numerator denominator with
  | ok r =>
      obtain ⟨hreduced, hdenotes, hexcept⟩ := (ofFraction_eq_ok_iff_denotes hzero).1 houtcome
      simp only [reduceCtorEq, false_iff, not_or, not_not]
      exact ⟨hexcept, r, hreduced, hdenotes⟩
  | error error =>
      rw [eq_overflow_of_ofFraction hzero houtcome]
      simp only [true_iff]
      by_contra hneither
      rw [not_or, not_not] at hneither
      obtain ⟨hexcept, r, hreduced, hdenotes⟩ := hneither
      have hok := (ofFraction_eq_ok_iff_denotes hzero).2 ⟨hreduced, hdenotes, hexcept⟩
      rw [houtcome] at hok
      cases hok

theorem long_of_natAbs_le {value : Int} {bound : Int64} (hbound : value.natAbs ≤ bound.toInt.natAbs)
    (hleast : bound.toInt ≠ IntegerRange.long.least) :
    ∃ result : Int64, result.toInt = value := by
  have hrange := contains_toInt64 bound
  simp only [IntegerRange.Contains, IntegerRange.long] at hrange hleast
  exact ⟨Int64.ofInt value, Int64.toInt_ofInt_of_le (by omega) (by omega)⟩

/-- Without the least integer there is nothing that leaves the range. -/
theorem exists_ofFraction {numerator denominator : Int64} (hzero : denominator ≠ 0)
    (hnumerator : numerator.toInt ≠ IntegerRange.long.least)
    (hdenominator : denominator.toInt ≠ IntegerRange.long.least) :
    ∃ r, ofFraction numerator denominator = .ok r := by
  have hne : denominator.toInt ≠ 0 := fun heq => hzero (Int64.toInt_inj.1 heq)
  have hpos : 0 < Int.gcd numerator.toInt denominator.toInt := Int.gcd_pos_of_ne_zero_right _ hne
  obtain ⟨first, second, hcoprime, hfirst, hsecond⟩ := Int.exists_gcd_one hpos
  have hsign : (signOf denominator.toInt).natAbs = 1 := by
    unfold signOf
    split <;> rfl
  have hbound : ∀ quotient value : Int,
      value = quotient * Int.gcd numerator.toInt denominator.toInt →
      (signOf denominator.toInt * quotient).natAbs ≤ value.natAbs := by
    intro quotient value hvalue
    rw [hvalue, Int.natAbs_mul, Int.natAbs_mul, hsign, Int.natAbs_natCast, Nat.one_mul]
    exact Nat.le_mul_of_pos_right _ hpos
  obtain ⟨above, habove⟩ := long_of_natAbs_le (hbound first _ hfirst) hnumerator
  obtain ⟨below, hbelow⟩ := long_of_natAbs_le (hbound second _ hsecond) hdenominator
  refine ⟨⟨above, below⟩, (ofFraction_eq_ok_iff_denotes hzero).2 ⟨⟨?_, ?_⟩, ?_, ?_⟩⟩
  · exact hbelow ▸ signOf_mul_pos hne (by omega) hsecond
  · rw [habove, hbelow, gcd_signOf_mul, hcoprime]
  · exact denotes_of_quotients hfirst hsecond habove hbelow
  · exact fun hdivided => hdenominator hdivided.1

/-! ## Texts -/

theorem ne_overflow_of_readPart {text : String} {part : List Char} {error : RationalError}
    (herror : readPart text part = .error error) : error ≠ .overflow := by
  unfold readPart at herror
  split at herror
  · cases herror
  · cases herror
    nofun

/-- Only a text of two integers around a slash can end the program. -/
theorem read_eq_overflow_iff {text : String} :
    read text = .error .overflow ↔
      ∃ before after numerator denominator,
        Text.splitFirst '/' text.toList = some (before, after) ∧
        readPart text before = .ok numerator ∧ readPart text after = .ok denominator ∧
        ofFraction numerator denominator = .error .overflow := by
  unfold read
  cases hsplit : Text.splitFirst '/' text.toList with
  | none =>
      have hwhole : (readPart text text.toList).map ofInteger ≠ .error .overflow := fun herror =>
        ne_overflow_of_readPart (map_eq_error_iff.1 herror) rfl
      simpa using hwhole
  | some halves =>
      obtain ⟨before, after⟩ := halves
      constructor
      · intro herror
        rcases bind_eq_error_iff.1 herror with hbefore | ⟨numerator, hbefore, herror⟩
        · exact absurd rfl (ne_overflow_of_readPart hbefore)
        · rcases bind_eq_error_iff.1 herror with hafter | ⟨denominator, hafter, herror⟩
          · exact absurd rfl (ne_overflow_of_readPart hafter)
          · exact ⟨before, after, numerator, denominator, rfl, hbefore, hafter, herror⟩
      · rintro ⟨before, after, numerator, denominator, hhalves, hbefore, hafter, herror⟩
        cases hhalves
        simp only [hbefore, hafter]
        exact herror

end Rational

end TypedOptions
