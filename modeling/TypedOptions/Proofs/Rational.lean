import Mathlib.Data.Int.GCD
import TypedOptions.Proofs.Number.Integer
import TypedOptions.Proofs.Outcome
import TypedOptions.Rational

/-!
# Rational numbers that are written and read

What is read is in lowest terms: its denominator is positive and has no
divisor in common with its numerator.  A number in lowest terms is read back
from its text, for the division by one neither changes it nor leaves the
range.
-/

namespace TypedOptions

theorem checkedLong_eq_ok_iff {value : Int} {result : Int64} :
    checkedLong value = .ok result ↔ result.toInt = value := by
  constructor
  · intro h
    unfold checkedLong at h
    split at h
    · rename_i hrange
      cases h
      exact toInt_ofInt_of_contains hrange
    · cases h
  · rintro rfl
    rw [checkedLong, if_pos (contains_toInt64 result), Int64.ofInt_toInt]

namespace Rational

/-! ## The greatest common divisor -/

theorem gcd_tmod (a b : Int) : Int.gcd b (a.tmod b) = Int.gcd a b := by
  unfold Int.gcd
  rw [Int.natAbs_tmod, Nat.gcd_comm b.natAbs, ← Nat.gcd_rec, Nat.gcd_comm]

theorem toInt_commonDivisor {a b : Int} {divisor : Int64} (h : commonDivisor a b = .ok divisor) :
    divisor.toInt = Int.gcd a b := by
  induction a, b using commonDivisor.induct with
  | case1 a =>
      rw [commonDivisor, if_pos rfl] at h
      rw [checkedLong_eq_ok_iff.1 h, Int.gcd_zero_right]
  | case2 a b hb hoverflow =>
      rw [commonDivisor, if_neg hb, if_pos hoverflow] at h
      cases h
  | case3 a b hb hoverflow ih =>
      rw [commonDivisor, if_neg hb, if_neg hoverflow] at h
      rw [ih h, gcd_tmod]

/-- Remainders become smaller, so only the first step can leave the range. -/
theorem commonDivisor_eq {a b : Int} (hstart : a = IntegerRange.long.least → b ≠ -1)
    (hb : -IntegerRange.long.greatest ≤ b ∧ b ≤ IntegerRange.long.greatest) :
    commonDivisor a b = checkedLong (Int.gcd a b) := by
  induction a, b using commonDivisor.induct with
  | case1 a => rw [commonDivisor, if_pos rfl, Int.gcd_zero_right]
  | case2 a b hzero hoverflow => exact absurd hoverflow.2 (hstart hoverflow.1)
  | case3 a b hzero hoverflow ih =>
      have hsmaller : (a.tmod b).natAbs < b.natAbs := by
        rw [Int.natAbs_tmod]
        exact Nat.mod_lt _ (by omega)
      rw [commonDivisor, if_neg hzero, if_neg hoverflow, ih, gcd_tmod]
      · intro hleast
        simp only [IntegerRange.long] at hb hleast
        omega
      · omega

/-! ## Lowest terms -/

def signOf (value : Int) : Int :=
  if value < 0 then -1 else 1

structure IsReduced (r : Rational) : Prop where
  positive : 0 < r.denominator.toInt
  coprime : Int.gcd r.numerator.toInt r.denominator.toInt = 1

theorem isReduced_ofInteger (value : Int64) : (ofInteger value).IsReduced where
  positive := Int.one_pos
  coprime := Int.gcd_one_right _

theorem ofFraction_of_ne_zero {numerator denominator : Int64} (hzero : denominator ≠ 0) :
    ofFraction numerator denominator =
      commonDivisor numerator.toInt denominator.toInt >>= fun divisor =>
        checkedLong (signOf denominator.toInt * numerator.toInt.tdiv divisor.toInt) >>=
          fun above =>
            checkedLong (signOf denominator.toInt * denominator.toInt.tdiv divisor.toInt) >>=
              fun below => .ok ⟨above, below⟩ :=
  if_neg hzero

theorem ofFraction_eq_ok_iff {numerator denominator : Int64} {r : Rational} :
    ofFraction numerator denominator = .ok r ↔
      denominator ≠ 0 ∧ ∃ divisor,
        commonDivisor numerator.toInt denominator.toInt = .ok divisor ∧
        r.numerator.toInt = signOf denominator.toInt * numerator.toInt.tdiv divisor.toInt ∧
        r.denominator.toInt = signOf denominator.toInt * denominator.toInt.tdiv divisor.toInt := by
  by_cases hzero : denominator = 0
  · have hrefused : ofFraction numerator denominator =
        .error (.zeroDenominator numerator denominator) := if_pos hzero
    rw [hrefused]
    simp [hzero]
  · rw [ofFraction_of_ne_zero hzero]
    simp only [bind_eq_ok_iff, checkedLong_eq_ok_iff]
    constructor
    · rintro ⟨divisor, hdivisor, above, habove, below, hbelow, hr⟩
      cases hr
      exact ⟨hzero, divisor, hdivisor, habove, hbelow⟩
    · rintro ⟨-, divisor, hdivisor, habove, hbelow⟩
      exact ⟨divisor, hdivisor, r.numerator, habove, r.denominator, hbelow, rfl⟩

theorem signOf_mul_pos {value quotient divisor : Int} (hvalue : value ≠ 0) (hdivisor : 0 < divisor)
    (hquotient : value = quotient * divisor) : 0 < signOf value * quotient := by
  rcases Int.lt_trichotomy quotient 0 with hless | rfl | hgreater
  · have hnegative : value < 0 := hquotient ▸ Int.mul_neg_of_neg_of_pos hless hdivisor
    rw [signOf, if_pos hnegative]
    omega
  · exact absurd (hquotient.trans (Int.zero_mul divisor)) hvalue
  · have hpositive : 0 < value := hquotient ▸ Int.mul_pos hgreater hdivisor
    rw [signOf, if_neg (by omega)]
    omega

theorem gcd_signOf_mul (value first second : Int) :
    Int.gcd (signOf value * first) (signOf value * second) = Int.gcd first second := by
  unfold signOf
  split
  · rw [Int.neg_one_mul, Int.neg_one_mul, Int.gcd_neg, Int.neg_gcd]
  · rw [Int.one_mul, Int.one_mul]

/-- Division by the greatest common divisor leaves no common divisor. -/
theorem exists_quotients {numerator denominator : Int} {divisor : Int64}
    (hdivisor : commonDivisor numerator denominator = .ok divisor) (hne : denominator ≠ 0) :
    0 < divisor.toInt ∧ ∃ first second, Int.gcd first second = 1 ∧
      numerator = first * divisor.toInt ∧ numerator.tdiv divisor.toInt = first ∧
      denominator = second * divisor.toInt ∧ denominator.tdiv divisor.toInt = second := by
  have hgcd := toInt_commonDivisor hdivisor
  have hpos : 0 < Int.gcd numerator denominator := Int.gcd_pos_of_ne_zero_right _ hne
  obtain ⟨first, second, hcoprime, hfirst, hsecond⟩ := Int.exists_gcd_one hpos
  rw [← hgcd] at hfirst hsecond
  have hdivisorPos : 0 < divisor.toInt := by omega
  have hdivisorNe : divisor.toInt ≠ 0 := by omega
  exact ⟨hdivisorPos, first, second, hcoprime, hfirst,
    Int.tdiv_eq_of_eq_mul_left hdivisorNe hfirst, hsecond,
    Int.tdiv_eq_of_eq_mul_left hdivisorNe hsecond⟩

/-- The sign of the denominator goes to the numerator, and no common divisor is left. -/
theorem isReduced_of_ofFraction {numerator denominator : Int64} {r : Rational}
    (h : ofFraction numerator denominator = .ok r) : r.IsReduced := by
  obtain ⟨hzero, divisor, hdivisor, habove, hbelow⟩ := ofFraction_eq_ok_iff.1 h
  have hne : denominator.toInt ≠ 0 := fun heq => hzero (Int64.toInt_inj.1 heq)
  obtain ⟨hpositive, first, second, hcoprime, -, hfirst, hdenominator, hsecond⟩ :=
    exists_quotients hdivisor hne
  rw [hfirst] at habove
  rw [hsecond] at hbelow
  constructor
  · rw [hbelow]
    exact signOf_mul_pos hne hpositive hdenominator
  · rw [habove, hbelow, gcd_signOf_mul, hcoprime]

theorem ofFraction_of_isReduced {r : Rational} (hreduced : r.IsReduced) :
    ofFraction r.numerator r.denominator = .ok r := by
  have hpositive := hreduced.positive
  have hless : r.denominator.toInt ≤ 9223372036854775807 := (contains_toInt64 r.denominator).2
  have hzero : r.denominator ≠ 0 := by
    intro hzero
    rw [hzero] at hpositive
    exact absurd hpositive (by decide)
  have hdivisor : commonDivisor r.numerator.toInt r.denominator.toInt = .ok 1 := by
    rw [commonDivisor_eq, hreduced.coprime]
    · rfl
    · omega
    · simp only [IntegerRange.long]
      omega
  have hone : (1 : Int64).toInt = 1 := rfl
  have hsign : signOf r.denominator.toInt = 1 := if_neg (by omega)
  refine ofFraction_eq_ok_iff.2 ⟨hzero, 1, hdivisor, ?_, ?_⟩
  · rw [hsign, hone, Int.tdiv_one, Int.one_mul]
  · rw [hsign, hone, Int.tdiv_one, Int.one_mul]

/-! ## Texts -/

theorem slash_not_mem_toString (value : Int) : '/' ∉ (toString value).toList := by
  intro hslash
  have hcode : '/'.toNat = 47 := rfl
  have hrange := toNat_of_mem_toString hslash
  omega

theorem readPart_toString (text : String) (value : Int64) :
    readPart text (toString value.toInt).toList = .ok value := by
  unfold readPart
  rw [(isPiece_toString _).trim_eq, readInteger_toString (by decide) (contains_toInt64 value)]
  exact congrArg Except.ok (Int64.ofInt_toInt value)

theorem toList_toText_of_ne_one {r : Rational} (hdenominator : r.denominator ≠ 1) :
    r.toText.toList =
      (toString r.numerator.toInt).toList ++ '/' :: (toString r.denominator.toInt).toList := by
  have htext : r.toText =
      toString r.numerator.toInt ++ "/" ++ toString r.denominator.toInt := if_neg hdenominator
  rw [htext, String.toList_append, String.toList_append, List.append_assoc]
  rfl

/-- A number in lowest terms is read back from its text. -/
theorem read_toText {r : Rational} (hreduced : r.IsReduced) : read r.toText = .ok r := by
  by_cases hdenominator : r.denominator = 1
  · have htext : r.toText = toString r.numerator.toInt := if_pos hdenominator
    have hsplit : Text.splitFirst '/' (toString r.numerator.toInt).toList = none :=
      Text.splitFirst_of_not_mem (slash_not_mem_toString _)
    rw [htext, read, hsplit]
    simp only [readPart_toString]
    exact congrArg Except.ok (congrArg (Rational.mk r.numerator) hdenominator.symm)
  · have hsplit := Text.splitFirst_append (toString r.denominator.toInt).toList
      (slash_not_mem_toString r.numerator.toInt)
    rw [← toList_toText_of_ne_one hdenominator] at hsplit
    rw [read, hsplit]
    simp only [readPart_toString]
    exact ofFraction_of_isReduced hreduced

theorem isReduced_of_read {text : String} {r : Rational} (h : read text = .ok r) : r.IsReduced := by
  unfold read at h
  split at h
  · obtain ⟨numerator, -, h⟩ := bind_eq_ok_iff.1 h
    obtain ⟨denominator, -, h⟩ := bind_eq_ok_iff.1 h
    exact isReduced_of_ofFraction h
  · obtain ⟨value, -, rfl⟩ := map_eq_ok_iff.1 h
    exact isReduced_ofInteger value

theorem isPiece_toText (r : Rational) : Text.IsPiece r.toText.toList := by
  by_cases hdenominator : r.denominator = 1
  · rw [toText, if_pos hdenominator]
    exact isPiece_toString _
  · rw [toList_toText_of_ne_one hdenominator]
    apply Text.isPiece_of_forall (by simp)
    intro c hc
    rw [List.mem_append, List.mem_cons] at hc
    rcases hc with habove | rfl | hbelow
    · exact isPlain_of_mem_toString habove
    · decide
    · exact isPlain_of_mem_toString hbelow

end Rational

end TypedOptions
