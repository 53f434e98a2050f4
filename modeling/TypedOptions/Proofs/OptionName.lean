import TypedOptions.OptionName
import TypedOptions.Proofs.Text.Trimming

/-!
# Names within texts

A name has no white space in it and none of the marks that give a line of an
option file its meaning.  Names can be put below other names.
-/

namespace TypedOptions

/-- Letters and digits of ASCII, underscores, plus and minus signs. -/
def IsSegmentChar (c : Char) : Prop :=
  ('A' ≤ c ∧ c ≤ 'Z') ∨ ('a' ≤ c ∧ c ≤ 'z') ∨ ('0' ≤ c ∧ c ≤ '9') ∨ c = '_' ∨ c = '+' ∨ c = '-'

theorem isNameChar_iff {c : Char} : isNameChar c = true ↔ IsSegmentChar c := by
  have hupper : c.isUpper = decide (c.val ≥ 'A'.val ∧ c.val ≤ 'Z'.val) := rfl
  have hlower : c.isLower = (decide (c.val ≥ 'a'.val) && decide (c.val ≤ 'z'.val)) := rfl
  have hdigit : c.isDigit = (decide (c.val ≥ '0'.val) && decide (c.val ≤ '9'.val)) := rfl
  have halphanum : c.isAlphanum = (c.isUpper || c.isLower || c.isDigit) := rfl
  rw [isNameChar, halphanum, hupper, hlower, hdigit]
  simp only [IsSegmentChar, Char.le_def, ge_iff_le, Bool.or_eq_true, Bool.and_eq_true,
    decide_eq_true_eq, beq_iff_eq, or_assoc]

theorem toNat_of_isNameChar {c : Char} (hc : isNameChar c = true) :
    43 ≤ c.toNat ∧ c.toNat ≤ 122 := by
  rcases isNameChar_iff.1 hc with hupper | hlower | hdigit | rfl | rfl | rfl
  · have hfirst : 65 ≤ c.toNat := hupper.1
    have hlast : c.toNat ≤ 90 := hupper.2
    omega
  · have hfirst : 97 ≤ c.toNat := hlower.1
    have hlast : c.toNat ≤ 122 := hlower.2
    omega
  · have hfirst : 48 ≤ c.toNat := hdigit.1
    have hlast : c.toNat ≤ 57 := hdigit.2
    omega
  · decide
  · decide
  · decide

theorem isBlank_of_isNameChar {c : Char} (hc : isNameChar c = true) : Text.isBlank c = false := by
  obtain ⟨hfirst, hlast⟩ := toNat_of_isNameChar hc
  have houtside : ∀ code < 123, 43 ≤ code → Text.blankTable.containsCode code = false := by
    decide
  exact houtside c.toNat (by omega) hfirst

theorem isNameChar_of_mem_isName {inSegment : Bool} {text : List Char}
    (hname : isNameFrom inSegment text = true) {c : Char} (hc : c ∈ text) :
    isNameChar c = true ∨ c = '.' := by
  induction text generalizing inSegment with
  | nil => exact absurd hc List.not_mem_nil
  | cons first rest ih =>
      rw [isNameFrom] at hname
      split at hname
      · rename_i hfirst
        rcases List.mem_cons.1 hc with rfl | hrest
        · exact Or.inl hfirst
        · exact ih hname hrest
      · simp only [Bool.and_eq_true, beq_iff_eq] at hname
        rcases List.mem_cons.1 hc with rfl | hrest
        · exact Or.inr hname.1.1
        · exact ih hname.2 hrest

theorem exists_cons_of_isName {text : List Char} (hname : isName text = true) :
    ∃ c rest, text = c :: rest ∧ isNameChar c = true := by
  cases text with
  | nil => cases hname
  | cons c rest =>
      refine ⟨c, rest, rfl, ?_⟩
      have hparts : isNameChar c = true ∧ isNameFrom true rest = true := by
        simpa [isName, isNameFrom] using hname
      exact hparts.1

/-- Joined by a point, texts are a name if both are. -/
theorem isNameFrom_append_point (inSegment : Bool) (text rest : List Char) :
    isNameFrom inSegment (text ++ '.' :: rest) =
      (isNameFrom inSegment text && isNameFrom false rest) := by
  induction text generalizing inSegment with
  | nil =>
      have hpoint : isNameChar '.' = false := by decide
      simp [isNameFrom, hpoint]
  | cons c more ih =>
      simp only [List.cons_append, isNameFrom, ih]
      split
      · rfl
      · simp only [Bool.and_assoc]

theorem isName_qualify_iff {parent name : String} :
    isName (OptionName.qualify parent name).toList = true ↔
      isName name.toList = true ∧ (parent = "" ∨ isName parent.toList = true) := by
  by_cases hempty : parent = ""
  · simp [hempty]
  · have htext : (OptionName.qualify parent name).toList =
        parent.toList ++ '.' :: name.toList := by
      rw [OptionName.qualify_of_ne_empty name hempty]
      simp
    rw [htext, isName, isNameFrom_append_point, Bool.and_eq_true, or_iff_right hempty]
    exact and_comm

theorem isName_qualify {heading key : String} (hheading : heading = "" ∨ isName heading.toList = true)
    (hkey : isName key.toList = true) : isName (OptionName.qualify heading key).toList = true :=
  isName_qualify_iff.2 ⟨hkey, hheading⟩

theorem not_mem_of_isName {text : List Char} {c : Char} (hname : isName text = true)
    (hplain : isNameChar c = false) (hpoint : c ≠ '.') : c ∉ text := by
  intro hc
  rcases isNameChar_of_mem_isName hname hc with hlegal | heq
  · rw [hplain] at hlegal
    cases hlegal
  · exact hpoint heq

theorem trim_of_isName {text : List Char} (hname : isName text = true) :
    Text.trim text = text := by
  have hplain : ∀ c ∈ text, Text.isBlank c = false := by
    intro c hc
    rcases isNameChar_of_mem_isName hname hc with hlegal | rfl
    · exact isBlank_of_isNameChar hlegal
    · decide
  exact Text.trim_eq_self (fun c hc => hplain c (List.mem_of_mem_head? hc))
    (fun c hc => hplain c (List.mem_of_getLast? hc))

/-- Behind a name, white space is only cut off at the end. -/
theorem trim_append_of_isName {name : List Char} {c : Char} (hname : isName name = true)
    (before after : List Char) (hc : Text.isBlank c = false) :
    Text.trim (name ++ before ++ c :: after) = name ++ before ++ c :: Text.trimEnd after := by
  obtain ⟨first, rest, rfl, hfirst⟩ := exists_cons_of_isName hname
  have hstart : Text.StartsPlain (first :: rest ++ before ++ c :: after) :=
    Text.startsPlain_cons_iff.2 (isBlank_of_isNameChar hfirst)
  rw [Text.trim_of_startsPlain hstart, Text.trimEnd_append_cons _ after hc]

end TypedOptions
