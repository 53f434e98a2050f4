import TypedOptions.Proofs.OptionName
import TypedOptions.Proofs.Regex.Anchoring

/-!
# The pattern of names

The form of names is given by an expression: a segment is one or more legal
characters, and every further segment stands behind a point.  The scan for
names takes exactly the texts in which the search finds this expression.
-/

namespace TypedOptions.OptionName

open Regex (Steps)

variable {text : Array Char} {c : Char} {i j : Nat} {inSegment : Bool}

def pattern : String := "^[a-zA-Z0-9_+-]+(\\.[a-zA-Z0-9_+-]+)*$"

def legal : CharSet :=
  .uniteAll [.range 'a'.toNat 'z'.toNat, .range 'A'.toNat 'Z'.toNat, .range '0'.toNat '9'.toNat,
    .single '_', .single '+', .single '-']

def segment : Regex :=
  .repetition (.char legal) 1 none

/-- A further segment with the point before it. -/
def further : Regex :=
  .capture (.sequence (.char (.single '.')) segment)

def expression : Regex :=
  .sequence (.assert .textStart)
    (.sequence segment (.sequence (.repetition further 0 none) (.assert .textEnd)))

theorem read?_pattern {limit : Regex.SizeLimit} (hsmall : limit pattern = true) :
    Regex.read? limit pattern = some expression :=
  Regex.read?_eq_some_iff.2 ⟨7, by with_unfolding_all rfl, by decide, hsmall⟩

/-! ## Segments -/

theorem contains_legal (c : Char) : legal.contains c = isNameChar c := by
  have hle (first second : Char) : first ≤ second ↔ first.toNat ≤ second.toNat :=
    UInt32.le_iff_toNat_le
  have hrange (first last : Char) :
      (CharSet.range first.toNat last.toNat).contains c = true ↔ first ≤ c ∧ c ≤ last := by
    rw [hle, hle]
    simp [CharSet.contains, CharSet.containsCode]
  rw [Bool.eq_iff_iff, isNameChar_iff, IsSegmentChar, legal, CharSet.uniteAll]
  simp only [List.foldl_cons, List.foldl_nil, CharSet.contains_union, CharSet.contains_nothing,
    CharSet.contains_single, Bool.false_or, Bool.or_eq_true, hrange, decide_eq_true_eq]
  simp only [or_assoc, or_left_comm]

/-- All characters between two places are legal. -/
def Legal (text : Array Char) (i j : Nat) : Prop :=
  ∀ k, i ≤ k → k < j → text[k]?.any isNameChar = true

theorem legal_of_le (hji : j ≤ i) : Legal text i j :=
  fun k hik hkj => absurd hkj (by omega)

theorem legal_cons_iff (hij : i < j) :
    Legal text i j ↔ text[i]?.any isNameChar = true ∧ Legal text (i + 1) j := by
  constructor
  · intro hlegal
    exact ⟨hlegal i (Nat.le_refl i) hij, fun k hik => hlegal k (by omega)⟩
  · rintro ⟨hfirst, hrest⟩ k hik hkj
    rcases Nat.eq_or_lt_of_le hik with rfl | hlater
    · exact hfirst
    · exact hrest k hlater hkj

theorem steps_legal_iff {count : Nat} :
    Steps ((Regex.char legal).Matches text) count i j ↔ j = i + count ∧ Legal text i j := by
  induction count generalizing i with
  | zero =>
      constructor
      · rintro rfl
        exact ⟨rfl, legal_of_le (Nat.le_refl _)⟩
      · rintro ⟨rfl, -⟩
        rfl
  | succ count ih =>
      have hchar (k : Nat) : (Regex.char legal).Matches text i k ↔
          text[i]?.any isNameChar = true ∧ k = i + 1 := by
        rw [Regex.Matches, funext contains_legal]
      simp only [Steps, hchar, ih]
      constructor
      · rintro ⟨k, ⟨hfirst, rfl⟩, rfl, hrest⟩
        exact ⟨by omega, (legal_cons_iff (by omega)).2 ⟨hfirst, hrest⟩⟩
      · rintro ⟨rfl, hlegal⟩
        obtain ⟨hfirst, hrest⟩ := (legal_cons_iff (by omega)).1 hlegal
        exact ⟨i + 1, ⟨hfirst, rfl⟩, by omega, hrest⟩

theorem matches_segment_iff : segment.Matches text i j ↔ i < j ∧ Legal text i j := by
  have hrepeated : segment.Matches text i j ↔
      ∃ more, Steps ((Regex.char legal).Matches text) (1 + more) i j :=
    exists_congr fun more => and_iff_right nofun
  simp only [hrepeated, steps_legal_iff]
  constructor
  · rintro ⟨more, rfl, hlegal⟩
    exact ⟨by omega, hlegal⟩
  · rintro ⟨hij, hlegal⟩
    exact ⟨j - i - 1, by omega, hlegal⟩

theorem matches_further_iff :
    further.Matches text i j ↔ text[i]? = some '.' ∧ segment.Matches text (i + 1) j := by
  have hpoint : text[i]?.any (CharSet.single '.').contains = true ↔ text[i]? = some '.' := by
    simp [Option.any_eq_true, CharSet.contains_single]
  simp only [further, Regex.Matches, hpoint]
  constructor
  · rintro ⟨k, ⟨hfirst, rfl⟩, hsegment⟩
    exact ⟨hfirst, hsegment⟩
  · rintro ⟨hfirst, hsegment⟩
    exact ⟨i + 1, ⟨hfirst, rfl⟩, hsegment⟩

/-! ## Names -/

/-- From a place on, the rest of a segment and further segments lead to the end. -/
def Leads (text : Array Char) (inSegment : Bool) (i : Nat) : Prop :=
  ∃ j count, i ≤ j ∧ (inSegment = false → i < j) ∧ Legal text i j ∧
    Steps (further.Matches text) count j text.size

theorem leads_size_iff : Leads text inSegment text.size ↔ inSegment = true := by
  constructor
  · rintro ⟨j, count, hle, hnonempty, -, hsteps⟩
    have hend : j ≤ text.size := hsteps.le fun i j => Regex.Matches.le
    by_contra hfresh
    have hlater := hnonempty (Bool.eq_false_iff.2 hfresh)
    omega
  · rintro rfl
    exact ⟨text.size, 0, Nat.le_refl _, by simp, legal_of_le (Nat.le_refl _), rfl⟩

/-- A legal character goes on with the segment, and a point behind one begins another. -/
theorem leads_iff (hc : text[i]? = some c) :
    Leads text inSegment i ↔
      (isNameChar c = true ∧ Leads text true (i + 1)) ∨
        (c = '.' ∧ inSegment = true ∧ Leads text false (i + 1)) := by
  have hfirst : text[i]?.any isNameChar = isNameChar c := by
    rw [hc, Option.any_some]
  have hinside : i < text.size := (Array.getElem?_eq_some_iff.1 hc).1
  constructor
  · rintro ⟨j, count, hle, hnonempty, hlegal, hsteps⟩
    rcases Nat.eq_or_lt_of_le hle with rfl | hlater
    · cases count with
      | zero => exact absurd hsteps (Nat.ne_of_lt hinside)
      | succ count =>
          obtain ⟨k, hfurther, hrest⟩ := hsteps
          obtain ⟨hpoint, hsegment⟩ := matches_further_iff.1 hfurther
          obtain ⟨hik, hmore⟩ := matches_segment_iff.1 hsegment
          refine .inr ⟨Option.some.inj (hc.symm.trans hpoint), ?_, k, count, by omega,
            fun _ => hik, hmore, hrest⟩
          by_contra hfresh
          exact Nat.lt_irrefl _ (hnonempty (Bool.eq_false_iff.2 hfresh))
    · obtain ⟨hlegalFirst, hmore⟩ := (legal_cons_iff hlater).1 hlegal
      exact .inl ⟨hfirst ▸ hlegalFirst, j, count, hlater, by simp, hmore, hsteps⟩
  · rintro (⟨hlegal, j, count, hlater, -, hmore, hsteps⟩ |
      ⟨rfl, rfl, j, count, -, hnonempty, hmore, hsteps⟩)
    · exact ⟨j, count, by omega, fun _ => hlater,
        (legal_cons_iff hlater).2 ⟨hfirst.trans hlegal, hmore⟩, hsteps⟩
    · have hfurther : further.Matches text i j :=
        matches_further_iff.2 ⟨hc, matches_segment_iff.2 ⟨hnonempty rfl, hmore⟩⟩
      exact ⟨i, count + 1, Nat.le_refl i, by simp, legal_of_le (Nat.le_refl i), j, hfurther, hsteps⟩

theorem isNameFrom_cons_iff {rest : List Char} :
    isNameFrom inSegment (c :: rest) = true ↔
      (isNameChar c = true ∧ isNameFrom true rest = true) ∨
        (c = '.' ∧ inSegment = true ∧ isNameFrom false rest = true) := by
  have hpoint : c = '.' → isNameChar c = false := by
    rintro rfl
    rfl
  rw [isNameFrom]
  split
  · rename_i hlegal
    have hother : c ≠ '.' := fun heq => Bool.false_ne_true ((hpoint heq).symm.trans hlegal)
    simp [hlegal, hother]
  · rename_i hlegal
    simp [hlegal, and_assoc]

/-- The scan of what lies behind a place. -/
theorem isNameFrom_iff_leads {rest : List Char} (hrest : text.toList.drop i = rest)
    (hi : i ≤ text.size) : isNameFrom inSegment rest = true ↔ Leads text inSegment i := by
  induction rest generalizing i inSegment with
  | nil =>
      rw [List.drop_eq_nil_iff, Array.length_toList] at hrest
      rw [Nat.le_antisymm hi hrest, leads_size_iff, isNameFrom_nil]
  | cons c rest ih =>
      have hc : text[i]? = some c := by
        rw [← Array.getElem?_toList, ← List.head?_drop, hrest, List.head?_cons]
      have hbehind : text.toList.drop (i + 1) = rest := by
        rw [← List.tail_drop, hrest, List.tail_cons]
      have hnext : i + 1 ≤ text.size := (Array.getElem?_eq_some_iff.1 hc).1
      rw [isNameFrom_cons_iff, leads_iff hc, ih hbehind hnext, ih hbehind hnext]

theorem isMatch_expression_iff {value : String} :
    expression.isMatch value = true ↔ Leads value.toList.toArray false 0 := by
  have hmatches (i j : Nat) : expression.Matches value.toList.toArray i j ↔
      (Regex.enclosed (.sequence segment (.repetition further 0 none))).Matches
        value.toList.toArray i j :=
    exists_congr fun k => and_congr_right fun _ => Regex.matches_sequence_assoc.symm
  simp only [Regex.isMatch_iff, hmatches]
  rw [← Regex.isMatch_iff, Regex.isMatch_enclosed_iff]
  constructor
  · rintro ⟨j, hsegment, count, -, hsteps⟩
    obtain ⟨hnonempty, hlegal⟩ := matches_segment_iff.1 hsegment
    exact ⟨j, 0 + count, Nat.zero_le j, fun _ => hnonempty, hlegal, hsteps⟩
  · rintro ⟨j, count, -, hnonempty, hlegal, hsteps⟩
    have hsegment : segment.Matches value.toList.toArray 0 j :=
      matches_segment_iff.2 ⟨hnonempty rfl, hlegal⟩
    exact ⟨j, hsegment, count, nofun, (Nat.zero_add count).symm ▸ hsteps⟩

/-- A text is a name if the search finds the pattern of names in it. -/
theorem isName_eq_isMatch {limit : Regex.SizeLimit} (hsmall : limit pattern = true) :
    ∃ read, Regex.read? limit pattern = some read ∧
      ∀ value : String, isName value.toList = read.isMatch value := by
  refine ⟨expression, read?_pattern hsmall, fun value => ?_⟩
  have hdrop : value.toList.toArray.toList.drop 0 = value.toList := rfl
  rw [Bool.eq_iff_iff, isName, isNameFrom_iff_leads hdrop (Nat.zero_le _), isMatch_expression_iff]

end TypedOptions.OptionName
