import TypedOptions.Proofs.Rational
import TypedOptions.Serialized

/-!
# Numbers in lowest terms

A number has one form in lowest terms, so that numbers of this form are equal
exactly if they stand for the same fraction.  Construction and reading lead to
this form; a stored number is taken as it is written.
-/

namespace TypedOptions

/-- The numbers above and below the line of a fraction in lowest terms are told by the fraction. -/
theorem eq_of_lowest_terms {above below numerator denominator : Int} (hbelow : 0 < below)
    (hdenominator : 0 < denominator) (hlowest : Int.gcd above below = 1)
    (hreduced : Int.gcd numerator denominator = 1)
    (hcross : above * denominator = numerator * below) :
    above = numerator ∧ below = denominator := by
  have hfirst : below ∣ denominator := by
    refine Int.dvd_of_dvd_mul_right_of_gcd_one (b := above) ?_ (Int.gcd_comm _ _ ▸ hlowest)
    exact hcross ▸ Int.dvd_mul_left numerator below
  have hsecond : denominator ∣ below := by
    refine Int.dvd_of_dvd_mul_right_of_gcd_one (b := numerator) ?_ (Int.gcd_comm _ _ ▸ hreduced)
    exact hcross ▸ Int.dvd_mul_left above denominator
  have hsame : below = denominator :=
    Int.dvd_antisymm (Int.le_of_lt hbelow) (Int.le_of_lt hdenominator) hfirst hsecond
  subst hsame
  exact ⟨Int.eq_of_mul_eq_mul_right (by omega) hcross, rfl⟩

namespace Rational

/-- The number stands for the fraction, by what is multiplied crosswise. -/
def Denotes (r : Rational) (numerator denominator : Int) : Prop :=
  r.numerator.toInt * denominator = numerator * r.denominator.toInt

instance (r : Rational) (numerator denominator : Int) :
    Decidable (r.Denotes numerator denominator) :=
  inferInstanceAs (Decidable (_ = _))

theorem eq_of_toInt_eq {first second : Rational}
    (hnumerator : first.numerator.toInt = second.numerator.toInt)
    (hdenominator : first.denominator.toInt = second.denominator.toInt) : first = second := by
  cases first
  cases second
  exact congr (congrArg Rational.mk (Int64.toInt_inj.1 hnumerator)) (Int64.toInt_inj.1 hdenominator)

theorem IsReduced.eq_iff_denotes {first second : Rational} (hfirst : first.IsReduced)
    (hsecond : second.IsReduced) :
    first = second ↔ first.Denotes second.numerator.toInt second.denominator.toInt := by
  constructor
  · rintro rfl
    rfl
  · intro hdenotes
    obtain ⟨hnumerator, hdenominator⟩ := eq_of_lowest_terms hfirst.positive hsecond.positive
      hfirst.coprime hsecond.coprime hdenotes
    exact eq_of_toInt_eq hnumerator hdenominator

end Rational

/-! ## Stored numbers -/

theorem Document.long?_eq_some_iff {document : Document} {value : Int64} :
    document.long? = some value ↔ document = .integer value.toInt := by
  constructor
  · intro hlong
    cases document with
    | integer number =>
        simp only [long?] at hlong
        split at hlong
        · rename_i hrange
          cases hlong
          have hless : number ≤ 9223372036854775807 := hrange.2
          rw [Int64.toInt_ofInt_of_le hrange.1 (by omega)]
        · cases hlong
    | _ => cases hlong
  · rintro rfl
    rw [long?, if_pos (contains_toInt64 value), Int64.ofInt_toInt]

/-- What is stored is a fraction in lowest terms. -/
def Document.HoldsLowestTerms (document : Document) : Prop :=
  ∃ numerator denominator : Int,
    document.pair? "num" "den" = some (.integer numerator, .integer denominator) ∧
      0 < denominator ∧ Int.gcd numerator denominator = 1

namespace Rational

theorem ofDocument?_eq_some_iff {document : Document} {r : Rational} :
    ofDocument? document = some r ↔
      document.pair? "num" "den" =
        some (.integer r.numerator.toInt, .integer r.denominator.toInt) := by
  unfold ofDocument?
  simp only [Option.bind_eq_bind, Option.bind_eq_some_iff, Option.pure_def, Option.some.injEq,
    Document.long?_eq_some_iff]
  constructor
  · rintro ⟨⟨above, below⟩, hpair, numerator, rfl, denominator, rfl, rfl⟩
    exact hpair
  · intro hpair
    exact ⟨_, hpair, r.numerator, rfl, r.denominator, rfl, rfl⟩

/-- Nothing is brought into lowest terms when it is read back. -/
theorem isReduced_iff_holdsLowestTerms {document : Document} {r : Rational}
    (hread : ofDocument? document = some r) : r.IsReduced ↔ document.HoldsLowestTerms := by
  have hpair := ofDocument?_eq_some_iff.1 hread
  constructor
  · intro hreduced
    exact ⟨_, _, hpair, hreduced.positive, hreduced.coprime⟩
  · rintro ⟨numerator, denominator, hstored, hpositive, hcoprime⟩
    cases hpair.symm.trans hstored
    exact ⟨hpositive, hcoprime⟩

/-- What a number can be obtained from. -/
inductive Source where
  | fraction (numerator denominator : Int64)
  | integer (value : Int64)
  | text (content : String)
  | stored (document : Document)

namespace Source

def number? : Source → Option Rational
  | fraction numerator denominator => (ofFraction numerator denominator).toOption
  | integer value => some (ofInteger value)
  | text content => (read content).toOption
  | stored document => ofDocument? document

/-- Only what is stored can be in another form. -/
def IsLowest : Source → Prop
  | stored document => document.HoldsLowestTerms
  | _ => True

theorem isReduced_iff_isLowest {source : Source} {r : Rational}
    (hnumber : source.number? = some r) : r.IsReduced ↔ source.IsLowest := by
  cases source with
  | fraction numerator denominator =>
      exact iff_of_true (isReduced_of_ofFraction (toOption_eq_some_iff.1 hnumber)) trivial
  | integer value =>
      cases hnumber
      exact iff_of_true (isReduced_ofInteger value) trivial
  | text content => exact iff_of_true (isReduced_of_read (toOption_eq_some_iff.1 hnumber)) trivial
  | stored document => exact isReduced_iff_holdsLowestTerms hnumber

end Source

/-- A number is in lowest terms, whatever it is obtained from, unless it is stored in another form;
this one is not brought into lowest terms.  All other numbers are equal exactly if they stand for
the same fraction. -/
theorem obtained_in_lowest_terms (source other : Source) (r s : Rational)
    (hsource : source.number? = some r) (hother : other.number? = some s) :
    (0 < r.denominator.toInt ∧ Int.gcd r.numerator.toInt r.denominator.toInt = 1 ↔
      source.IsLowest) ∧
    (source.IsLowest → other.IsLowest →
      (r = s ↔ r.numerator.toInt * s.denominator.toInt =
        s.numerator.toInt * r.denominator.toInt)) := by
  have hreduced := Source.isReduced_iff_isLowest hsource
  have hotherReduced := Source.isReduced_iff_isLowest hother
  constructor
  · rw [← hreduced]
    exact ⟨fun ⟨hpositive, hcoprime⟩ => ⟨hpositive, hcoprime⟩,
      fun hlowest => ⟨hlowest.positive, hlowest.coprime⟩⟩
  · intro hlowest hotherLowest
    exact (hreduced.2 hlowest).eq_iff_denotes (hotherReduced.2 hotherLowest)

/-! ## Samples -/

/-- A number that nothing divides by, and a half that is not the half. -/
theorem stored_as_written :
    ofDocument? (.fields [("num", .integer 1), ("den", .integer 0)]) = some ⟨1, 0⟩ ∧
      ¬IsReduced ⟨1, 0⟩ ∧
      ofDocument? (.fields [("num", .integer 2), ("den", .integer 4)]) = some ⟨2, 4⟩ ∧
      ofFraction 1 2 = .ok ⟨1, 2⟩ ∧ (⟨2, 4⟩ : Rational) ≠ ⟨1, 2⟩ ∧
      (⟨2, 4⟩ : Rational).Denotes (1 : Int64).toInt (2 : Int64).toInt := by
  have hnothing : ¬IsReduced ⟨1, 0⟩ := fun hreduced => absurd hreduced.positive (by decide)
  exact ⟨rfl, hnothing, rfl, by decide +kernel, by decide, by decide⟩

theorem obtained_in_lowest_terms_sample :
    Source.number? (.fraction 6 (-4)) = some ⟨-3, 2⟩ ∧
      Source.number? (.text " 9 / 6 ") = some ⟨3, 2⟩ ∧
      (⟨-3, 2⟩ : Rational) ≠ ⟨3, 2⟩ ∧
      ¬Document.HoldsLowestTerms (.fields [("num", .integer 2), ("den", .integer 4)]) := by
  have hfraction : Source.number? (.fraction 6 (-4)) = some ⟨-3, 2⟩ := by
    decide +kernel
  have htext : Source.number? (.text " 9 / 6 ") = some ⟨3, 2⟩ := by
    decide +kernel
  refine ⟨hfraction, htext, ?_, ?_⟩
  · obtain ⟨-, hequal⟩ := obtained_in_lowest_terms (.fraction 6 (-4)) (.text " 9 / 6 ") _ _
      hfraction htext
    rw [ne_eq, hequal trivial trivial]
    decide
  · intro hlowest
    obtain ⟨hform, -⟩ := obtained_in_lowest_terms
      (.stored (.fields [("num", .integer 2), ("den", .integer 4)])) (.fraction 6 (-4)) ⟨2, 4⟩ _
      rfl hfraction
    exact absurd (hform.2 hlowest).2 (by decide)

end Rational

end TypedOptions
