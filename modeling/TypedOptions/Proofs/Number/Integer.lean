import TypedOptions.Number.Integer
import TypedOptions.Proofs.Text.Pieces
import TypedOptions.Text.Alphabetic

/-!
# Integers that are written and read

The decimal digits of a number are read back as the number.  On the way all
numbers that are made of the first few digits lie between zero and the whole
number, so no digit leads out of a range that has both of them.
-/

namespace TypedOptions

theorem digitValue?_digitChar {digit : Nat} (hdigit : digit < 10) :
    digitValue? digit.digitChar = some digit := by
  have hisDigit : digit.digitChar.isDigit = true := by
    simpa [Nat.isDigit_digitChar] using hdigit
  have hcode : digit.digitChar.toNat = 48 + digit := Nat.toNat_digitChar_of_lt_ten hdigit
  unfold digitValue?
  rw [if_pos hisDigit, hcode]
  exact congrArg some (by simp)

theorem readDigits_append (range : IntegerRange) (negative : Bool) (value : Int)
    (before after : List Char) :
    readDigits range negative value (before ++ after) =
      (readDigits range negative value before >>= fun next =>
        readDigits range negative next after) := by
  induction before generalizing value with
  | nil => rfl
  | cons c rest ih =>
      simp only [List.cons_append, readDigits]
      split
      · rfl
      · split
        · exact ih _
        · rfl

/-- A number of digits with its sign. -/
def signed (negative : Bool) (number : Nat) : Int :=
  if negative then -(number : Int) else number

theorem appendDigit_signed (negative : Bool) (number : Nat) :
    appendDigit negative (signed negative (number / 10)) (number % 10) =
      signed negative number := by
  unfold appendDigit signed
  cases negative with
  | true =>
      simp only [if_true]
      omega
  | false =>
      simp only [Bool.false_eq_true, if_false]
      omega

theorem readDigits_digitChar {range : IntegerRange} {negative : Bool} {value : Int} {digit : Nat}
    (hdigit : digit < 10) (hrange : range.Contains (appendDigit negative value digit)) :
    readDigits range negative value [digit.digitChar] =
      .ok (appendDigit negative value digit) := by
  simp only [readDigits, digitValue?_digitChar hdigit, if_pos hrange]

/-- The digits before the last one make a number that is nearer to zero. -/
theorem IntegerRange.contains_signed_div {range : IntegerRange} {negative : Bool} {number : Nat}
    (hzero : range.Contains 0) (hrange : range.Contains (signed negative number)) :
    range.Contains (signed negative (number / 10)) := by
  unfold Contains signed at *
  cases negative with
  | true =>
      simp only [if_true] at *
      omega
  | false =>
      simp only [Bool.false_eq_true, if_false] at *
      omega

theorem readDigits_toDigits {range : IntegerRange} {negative : Bool} (hzero : range.Contains 0)
    {number : Nat} (hrange : range.Contains (signed negative number)) :
    readDigits range negative 0 (Nat.toDigits 10 number) = .ok (signed negative number) := by
  induction number using Nat.strongRecOn with
  | ind number ih =>
      have happend := appendDigit_signed negative number
      by_cases hless : number < 10
      · have hdiv : number / 10 = 0 := by omega
        have hmod : number % 10 = number := by omega
        have hstart : signed negative 0 = 0 := by cases negative <;> rfl
        rw [hdiv, hmod, hstart] at happend
        rw [Nat.toDigits_of_lt_base hless, ← happend]
        exact readDigits_digitChar hless (happend ▸ hrange)
      · have hdigits : Nat.toDigits 10 number =
            Nat.toDigits 10 (number / 10) ++ [(number % 10).digitChar] :=
          Nat.toDigits_of_base_le (by decide) (by omega)
        have hfirst := ih (number / 10) (by omega) (IntegerRange.contains_signed_div hzero hrange)
        rw [hdigits, readDigits_append, hfirst, ← happend]
        exact readDigits_digitChar (Nat.mod_lt _ (by decide)) (happend ▸ hrange)

/-! ## Signs -/

theorem readInteger_of_isDigit (range : IntegerRange) {c : Char} (rest : List Char)
    (hdigit : c.isDigit = true) :
    readInteger range (c :: rest) = readDigits range false 0 (c :: rest) := by
  have hplus : c ≠ '+' := by
    rintro rfl
    cases hdigit
  have hminus : c ≠ '-' := by
    rintro rfl
    cases hdigit
  unfold readInteger
  split <;> simp_all

theorem readInteger_minus (range : IntegerRange) {digits : List Char} (hdigits : digits ≠ []) :
    readInteger range ('-' :: digits) = readDigits range true 0 digits := by
  obtain ⟨c, rest, rfl⟩ := List.exists_cons_of_ne_nil hdigits
  rfl

theorem toList_toString_of_nonneg {value : Int} (hvalue : 0 ≤ value) :
    (toString value).toList = Nat.toDigits 10 value.toNat := by
  rw [Int.toString_eq_repr, Int.repr_eq_if, if_pos hvalue, Nat.toList_repr]

theorem toList_toString_of_neg {value : Int} (hvalue : value < 0) :
    (toString value).toList = '-' :: Nat.toDigits 10 (-value).toNat := by
  rw [Int.toString_eq_repr, Int.repr_eq_if, if_neg (by omega), String.toList_append,
    Nat.toList_repr]
  rfl

theorem isDigit_of_mem_toDigits {number : Nat} {c : Char} (hc : c ∈ Nat.toDigits 10 number) :
    c.isDigit = true :=
  Nat.isDigit_of_mem_toDigits (by decide) (Nat.le_refl 10) hc

theorem exists_cons_toDigits (number : Nat) : ∃ c rest, Nat.toDigits 10 number = c :: rest :=
  List.exists_cons_of_ne_nil Nat.toDigits_ne_nil

/-- An integer of a range is read back from its text. -/
theorem readInteger_toString {range : IntegerRange} {value : Int} (hzero : range.Contains 0)
    (hrange : range.Contains value) : readInteger range (toString value).toList = .ok value := by
  by_cases hvalue : 0 ≤ value
  · have hsigned : signed false value.toNat = value := Int.toNat_of_nonneg hvalue
    rw [toList_toString_of_nonneg hvalue]
    obtain ⟨c, rest, hdigits⟩ := exists_cons_toDigits value.toNat
    have hdigit : c.isDigit = true := isDigit_of_mem_toDigits (hdigits ▸ List.mem_cons_self)
    have hread := readDigits_toDigits hzero (hsigned.symm ▸ hrange)
    rw [hsigned, hdigits] at hread
    rw [hdigits, readInteger_of_isDigit range rest hdigit, hread]
  · have hsigned : signed true (-value).toNat = value := by
      unfold signed
      simp only [if_true]
      omega
    rw [toList_toString_of_neg (by omega), readInteger_minus range Nat.toDigits_ne_nil,
      readDigits_toDigits hzero (hsigned.symm ▸ hrange), hsigned]

/-! ## The characters of integers -/

/-- The text of an integer has digits, and a minus sign if the integer is negative. -/
theorem mem_toString {value : Int} {c : Char} (hc : c ∈ (toString value).toList) :
    c = '-' ∨ c.isDigit = true := by
  by_cases hvalue : 0 ≤ value
  · rw [toList_toString_of_nonneg hvalue] at hc
    exact Or.inr (isDigit_of_mem_toDigits hc)
  · rw [toList_toString_of_neg (by omega), List.mem_cons] at hc
    exact hc.imp_right isDigit_of_mem_toDigits

theorem exists_isDigit_toString (value : Int) :
    ∃ c ∈ (toString value).toList, c.isDigit = true := by
  have hdigits : ∀ number, ∃ c ∈ Nat.toDigits 10 number, c.isDigit = true := by
    intro number
    obtain ⟨c, rest, hcons⟩ := exists_cons_toDigits number
    have hc : c ∈ Nat.toDigits 10 number := hcons ▸ List.mem_cons_self
    exact ⟨c, hc, isDigit_of_mem_toDigits hc⟩
  by_cases hvalue : 0 ≤ value
  · rw [toList_toString_of_nonneg hvalue]
    exact hdigits _
  · obtain ⟨c, hc, hdigit⟩ := hdigits (-value).toNat
    rw [toList_toString_of_neg (by omega)]
    exact ⟨c, List.mem_cons_of_mem _ hc, hdigit⟩

theorem toNat_of_isDigit {c : Char} (hdigit : c.isDigit = true) : 48 ≤ c.toNat ∧ c.toNat ≤ 57 := by
  have hcode : c.val ≥ '0'.val ∧ c.val ≤ '9'.val := by
    simpa [Char.isDigit] using hdigit
  exact ⟨hcode.1, hcode.2⟩

theorem toNat_of_mem_toString {value : Int} {c : Char} (hc : c ∈ (toString value).toList) :
    c.toNat = 45 ∨ 48 ≤ c.toNat ∧ c.toNat ≤ 57 := by
  rcases mem_toString hc with rfl | hdigit
  · exact Or.inl rfl
  · exact Or.inr (toNat_of_isDigit hdigit)

/-- Neither signs nor digits are white space. -/
theorem isBlank_of_toNat {c : Char} (hleast : 43 ≤ c.toNat) (hless : c.toNat < 58) :
    Text.isBlank c = false := by
  have houtside : ∀ code < 58, 43 ≤ code → Text.blankTable.containsCode code = false := by
    decide
  exact houtside c.toNat hless hleast

theorem isPlain_of_mem_toString {value : Int} {c : Char} (hc : c ∈ (toString value).toList) :
    Text.isBlank c = false ∧ c ≠ ',' := by
  have hcode := toNat_of_mem_toString hc
  refine ⟨isBlank_of_toNat (by omega) (by omega), ?_⟩
  rintro rfl
  exact absurd hcode (by decide)

theorem isAlphabetic_of_toNat_lt {c : Char} (hcode : c.toNat < 58) :
    Text.isAlphabetic c = false := by
  have houtside : ∀ code < 58, Text.alphabeticTable.containsCode code = false := by
    decide
  exact houtside c.toNat hcode

theorem isAlphabetic_of_mem_toString {value : Int} {c : Char} (hc : c ∈ (toString value).toList) :
    Text.isAlphabetic c = false := by
  have hcode := toNat_of_mem_toString hc
  exact isAlphabetic_of_toNat_lt (by omega)

theorem isAlphabetic_of_isDigit {c : Char} (hdigit : c.isDigit = true) :
    Text.isAlphabetic c = false := by
  have hcode := toNat_of_isDigit hdigit
  exact isAlphabetic_of_toNat_lt (by omega)

theorem isPiece_toString (value : Int) : Text.IsPiece (toString value).toList := by
  obtain ⟨c, hc, -⟩ := exists_isDigit_toString value
  exact Text.isPiece_of_forall (List.ne_nil_of_mem hc) fun _ => isPlain_of_mem_toString

/-! ## What is read -/

theorem digitValue?_eq_some_iff {c : Char} {digit : Nat} :
    digitValue? c = some digit ↔ c.isDigit = true ∧ digit = c.toNat - '0'.toNat := by
  unfold digitValue?
  split
  · rename_i hdigit
    simp [hdigit, eq_comm]
  · rename_i hother
    simp [hother]

theorem isDigit_of_readDigits {range : IntegerRange} {negative : Bool} {value result : Int}
    {text : List Char} (h : readDigits range negative value text = .ok result) :
    ∀ c ∈ text, c.isDigit = true := by
  induction text generalizing value with
  | nil => nofun
  | cons c rest ih =>
      simp only [readDigits] at h
      split at h
      · cases h
      · rename_i digit hdigit
        split at h
        · exact List.forall_mem_cons.2 ⟨(digitValue?_eq_some_iff.1 hdigit).1, ih h⟩
        · cases h

/-- What is read as an integer ends in a digit, and so has one. -/
theorem exists_final_digit_of_readInteger {range : IntegerRange} {text : List Char} {result : Int}
    (h : readInteger range text = .ok result) :
    ∃ c ∈ text.getLast?, c.isDigit = true := by
  have hfinal : ∀ {negative digits}, digits ≠ [] → digits <:+ text →
      readDigits range negative 0 digits = .ok result →
        ∃ c ∈ text.getLast?, c.isDigit = true := by
    rintro negative digits hne ⟨sign, rfl⟩ hdigits
    refine ⟨digits.getLast hne, ?_, isDigit_of_readDigits hdigits _ (List.getLast_mem hne)⟩
    rw [List.getLast?_append_of_ne_nil _ hne]
    exact List.getLast?_eq_some_getLast hne
  unfold readInteger at h
  split at h
  · cases h
  · cases h
  · cases h
  · rename_i digits hlone
    refine hfinal ?_ (List.suffix_cons '+' digits) h
    rintro rfl
    exact hlone rfl
  · rename_i digits hlone
    refine hfinal ?_ (List.suffix_cons '-' digits) h
    rintro rfl
    exact hlone rfl
  · rename_i hne _ _ _ _
    exact hfinal hne (List.suffix_refl text) h

/-! ## Integers of fixed width -/

theorem contains_toInt32 (value : Int32) : IntegerRange.int.Contains value.toInt := by
  have hless : value.toInt < 2147483648 := Int32.toInt_lt value
  have hgreatest : value.toInt ≤ 2147483647 := by omega
  exact ⟨Int32.le_toInt value, hgreatest⟩

theorem contains_toInt64 (value : Int64) : IntegerRange.long.Contains value.toInt := by
  have hless : value.toInt < 9223372036854775808 := Int64.toInt_lt value
  have hgreatest : value.toInt ≤ 9223372036854775807 := by omega
  exact ⟨Int64.le_toInt value, hgreatest⟩

theorem toInt_ofInt32_of_contains {value : Int} (hvalue : IntegerRange.int.Contains value) :
    (Int32.ofInt value).toInt = value := by
  have hless : value ≤ 2147483647 := hvalue.2
  exact Int32.toInt_ofInt_of_le hvalue.1 (by omega)

theorem toInt_ofInt_of_contains {value : Int} (hvalue : IntegerRange.long.Contains value) :
    (Int64.ofInt value).toInt = value := by
  have hless : value ≤ 9223372036854775807 := hvalue.2
  exact Int64.toInt_ofInt_of_le hvalue.1 (by omega)

theorem readInt_toString (value : Int32) : readInt (toString value.toInt) = .ok value := by
  unfold readInt
  rw [readInteger_toString (by decide) (contains_toInt32 value)]
  exact congrArg Except.ok (Int32.ofInt_toInt value)

theorem readLong_toString (value : Int64) : readLong (toString value.toInt) = .ok value := by
  unfold readLong
  rw [readInteger_toString (by decide) (contains_toInt64 value)]
  exact congrArg Except.ok (Int64.ofInt_toInt value)

end TypedOptions
