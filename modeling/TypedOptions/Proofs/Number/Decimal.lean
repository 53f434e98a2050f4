import TypedOptions.Proofs.Number.Integer
import TypedOptions.Proofs.Outcome

/-!
# Texts that are integers

A decimal integer is a row of digits, perhaps behind a sign, and denotes the
number that Horner's rule makes of the digits.  The reader of a range accepts
exactly the decimal integers that denote a number of the range: it stops as
soon as the digits so far leave the range, but the number only grows on the
way, so that a number within the range is never stopped.
-/

namespace TypedOptions

/-- At least one digit, and the number that the digits make. -/
structure IsNumeral (digits : List Char) (number : Nat) : Prop where
  ne_nil : digits ≠ []
  isDigit : ∀ c ∈ digits, c.isDigit = true
  number_eq : number = Nat.ofDigitChars 10 digits 0

/-- A text and the number that it denotes. -/
inductive IsDecimal : List Char → Int → Prop where
  | unsigned {digits : List Char} {number : Nat} (h : IsNumeral digits number) :
      IsDecimal digits number
  | plus {digits : List Char} {number : Nat} (h : IsNumeral digits number) :
      IsDecimal ('+' :: digits) number
  | minus {digits : List Char} {number : Nat} (h : IsNumeral digits number) :
      IsDecimal ('-' :: digits) (-number)

/-! ## Digits -/

theorem appendDigit_signed_eq (negative : Bool) (number digit : Nat) :
    appendDigit negative (signed negative number) digit = signed negative (10 * number + digit) := by
  cases negative with
  | true =>
      simp only [appendDigit, signed, if_true]
      omega
  | false =>
      simp only [appendDigit, signed, Bool.false_eq_true, if_false]
      omega

theorem le_ofDigitChars (digits : List Char) (start : Nat) :
    start ≤ Nat.ofDigitChars 10 digits start := by
  induction digits generalizing start with
  | nil => simp
  | cons c rest ih =>
      rw [Nat.ofDigitChars_cons]
      have hrest := ih (10 * start + (c.toNat - '0'.toNat))
      omega

/-- What lies between two numbers of a range is of the range. -/
theorem IntegerRange.contains_signed_of_le {range : IntegerRange} {negative : Bool}
    {first middle last : Nat} (hfirst : range.Contains (signed negative first))
    (hlast : range.Contains (signed negative last)) (hle : first ≤ middle) (hge : middle ≤ last) :
    range.Contains (signed negative middle) := by
  unfold Contains signed at *
  cases negative with
  | true =>
      simp only [if_true] at *
      omega
  | false =>
      simp only [Bool.false_eq_true, if_false] at *
      omega

theorem readDigits_eq_ok_iff {range : IntegerRange} {negative : Bool} {digits : List Char}
    {start : Nat} {result : Int} (hstart : range.Contains (signed negative start)) :
    readDigits range negative (signed negative start) digits = .ok result ↔
      (∀ c ∈ digits, c.isDigit = true) ∧
        result = signed negative (Nat.ofDigitChars 10 digits start) ∧ range.Contains result := by
  induction digits generalizing start with
  | nil =>
      simp only [readDigits, Except.ok.injEq, List.not_mem_nil, false_implies, implies_true,
        Nat.ofDigitChars_nil, true_and]
      constructor
      · intro hresult
        subst hresult
        exact ⟨rfl, hstart⟩
      · exact fun hresult => hresult.1.symm
  | cons c rest ih =>
      rw [readDigits, Nat.ofDigitChars_cons, List.forall_mem_cons]
      by_cases hdigit : c.isDigit = true
      · have hvalue : digitValue? c = some (c.toNat - '0'.toNat) :=
          digitValue?_eq_some_iff.2 ⟨hdigit, rfl⟩
        simp only [hvalue, appendDigit_signed_eq, hdigit, true_and]
        by_cases hnext : range.Contains (signed negative (10 * start + (c.toNat - '0'.toNat)))
        · rw [if_pos hnext, ih hnext]
        · rw [if_neg hnext]
          simp only [reduceCtorEq, false_iff, not_and]
          intro _ hresult hrange
          subst hresult
          apply hnext
          exact IntegerRange.contains_signed_of_le hstart hrange (by omega)
            (le_ofDigitChars rest _)
      · have hvalue : digitValue? c = none := by simp [digitValue?, hdigit]
        simp [hvalue, hdigit]

theorem readDigits_zero_eq_ok_iff {range : IntegerRange} {negative : Bool} {digits : List Char}
    {result : Int} (hzero : range.Contains 0) (hne : digits ≠ []) :
    readDigits range negative 0 digits = .ok result ↔
      ∃ number, IsNumeral digits number ∧ result = signed negative number ∧
        range.Contains result := by
  have hsigned : signed negative 0 = 0 := by cases negative <;> simp [signed]
  have hstart : range.Contains (signed negative 0) := hsigned.symm ▸ hzero
  rw [← hsigned, readDigits_eq_ok_iff hstart]
  constructor
  · intro h
    exact ⟨_, ⟨hne, h.1, rfl⟩, h.2⟩
  · rintro ⟨number, hnumeral, h⟩
    rw [← hnumeral.number_eq]
    exact ⟨hnumeral.isDigit, h⟩

/-! ## Signs -/

theorem IsNumeral.exists_cons {digits : List Char} {number : Nat} (h : IsNumeral digits number) :
    ∃ c rest, digits = c :: rest ∧ c.isDigit = true := by
  obtain ⟨c, rest, rfl⟩ := List.exists_cons_of_ne_nil h.ne_nil
  exact ⟨c, rest, rfl, h.isDigit c List.mem_cons_self⟩

theorem isDecimal_of_readInteger {range : IntegerRange} {text : List Char} {result : Int}
    (hzero : range.Contains 0) (hread : readInteger range text = .ok result) :
    IsDecimal text result := by
  unfold readInteger at hread
  split at hread
  · cases hread
  · cases hread
  · cases hread
  · rename_i digits hlone
    have hne : digits ≠ [] := hlone
    obtain ⟨number, hnumeral, rfl, -⟩ := (readDigits_zero_eq_ok_iff hzero hne).1 hread
    simpa [signed] using IsDecimal.plus hnumeral
  · rename_i digits hlone
    have hne : digits ≠ [] := hlone
    obtain ⟨number, hnumeral, rfl, -⟩ := (readDigits_zero_eq_ok_iff hzero hne).1 hread
    simpa [signed] using IsDecimal.minus hnumeral
  · rename_i hne _ _ _ _
    obtain ⟨number, hnumeral, rfl, -⟩ := (readDigits_zero_eq_ok_iff hzero hne).1 hread
    simpa [signed] using IsDecimal.unsigned hnumeral

theorem readInteger_plus (range : IntegerRange) {digits : List Char} (hdigits : digits ≠ []) :
    readInteger range ('+' :: digits) = readDigits range false 0 digits := by
  obtain ⟨c, rest, rfl⟩ := List.exists_cons_of_ne_nil hdigits
  rfl

/-- The reader of a range accepts the decimal integers of the range. -/
theorem readInteger_eq_ok_iff {range : IntegerRange} {text : List Char} {result : Int}
    (hzero : range.Contains 0) :
    readInteger range text = .ok result ↔ IsDecimal text result ∧ range.Contains result := by
  constructor
  · intro hread
    exact ⟨isDecimal_of_readInteger hzero hread, readInteger_contains hzero hread⟩
  · rintro ⟨hdecimal, hrange⟩
    cases hdecimal with
    | unsigned h =>
        obtain ⟨c, rest, rfl, hdigit⟩ := h.exists_cons
        rw [readInteger_of_isDigit range rest hdigit, readDigits_zero_eq_ok_iff hzero h.ne_nil]
        exact ⟨_, h, by simp [signed], hrange⟩
    | plus h =>
        rw [readInteger_plus range h.ne_nil, readDigits_zero_eq_ok_iff hzero h.ne_nil]
        exact ⟨_, h, by simp [signed], hrange⟩
    | minus h =>
        rw [readInteger_minus range h.ne_nil, readDigits_zero_eq_ok_iff hzero h.ne_nil]
        exact ⟨_, h, by simp [signed], hrange⟩

/-! ## The characters of decimal integers -/

namespace IsDecimal

variable {text : List Char} {number : Int}

theorem mem (h : IsDecimal text number) : ∀ c ∈ text, c = '+' ∨ c = '-' ∨ c.isDigit = true := by
  cases h with
  | unsigned h => exact fun c hc => Or.inr (Or.inr (h.isDigit c hc))
  | plus h => simpa using fun c hc => Or.inr (Or.inr (h.isDigit c hc))
  | minus h => simpa using fun c hc => Or.inr (Or.inr (h.isDigit c hc))

theorem ne_nil (h : IsDecimal text number) : text ≠ [] := by
  cases h with
  | unsigned h => exact h.ne_nil
  | plus h => exact List.cons_ne_nil _ _
  | minus h => exact List.cons_ne_nil _ _

theorem toNat_of_mem (h : IsDecimal text number) {c : Char} (hc : c ∈ text) :
    43 ≤ c.toNat ∧ c.toNat < 58 := by
  rcases h.mem c hc with rfl | rfl | hdigit
  · decide
  · decide
  · have hcode := toNat_of_isDigit hdigit
    omega

theorem isBlank_eq_false (h : IsDecimal text number) {c : Char} (hc : c ∈ text) :
    Text.isBlank c = false :=
  isBlank_of_toNat (h.toNat_of_mem hc).1 (h.toNat_of_mem hc).2

theorem isAlphabetic_eq_false (h : IsDecimal text number) {c : Char} (hc : c ∈ text) :
    Text.isAlphabetic c = false :=
  isAlphabetic_of_toNat_lt (h.toNat_of_mem hc).2

end IsDecimal

/-! ## Integers of fixed width -/

theorem readInt_eq_ok_iff {text : String} {value : Int32} :
    readInt text = .ok value ↔ IsDecimal text.toList value.toInt := by
  have hread (result : Int) : readInteger .int text.toList = .ok result ↔
      IsDecimal text.toList result ∧ IntegerRange.int.Contains result :=
    readInteger_eq_ok_iff (by decide)
  constructor
  · intro hvalue
    obtain ⟨result, hresult, rfl⟩ := map_eq_ok_iff.1 hvalue
    obtain ⟨hdecimal, hcontains⟩ := (hread result).1 hresult
    rwa [toInt_ofInt32_of_contains hcontains]
  · intro hdecimal
    have hresult := (hread value.toInt).2 ⟨hdecimal, contains_toInt32 value⟩
    exact map_eq_ok_iff.2 ⟨value.toInt, hresult, (Int32.ofInt_toInt value).symm⟩

theorem readLong_eq_ok_iff {text : String} {value : Int64} :
    readLong text = .ok value ↔ IsDecimal text.toList value.toInt := by
  have hread (result : Int) : readInteger .long text.toList = .ok result ↔
      IsDecimal text.toList result ∧ IntegerRange.long.Contains result :=
    readInteger_eq_ok_iff (by decide)
  constructor
  · intro hvalue
    obtain ⟨result, hresult, rfl⟩ := map_eq_ok_iff.1 hvalue
    obtain ⟨hdecimal, hcontains⟩ := (hread result).1 hresult
    rwa [toInt_ofInt_of_contains hcontains]
  · intro hdecimal
    have hresult := (hread value.toInt).2 ⟨hdecimal, contains_toInt64 value⟩
    exact map_eq_ok_iff.2 ⟨value.toInt, hresult, (Int64.ofInt_toInt value).symm⟩

end TypedOptions
