import TypedOptions.Proofs.Number.Decimal
import TypedOptions.Proofs.TimeSpan.Readers

/-!
# Texts that are time spans

A text is read as a time span exactly if it spells one: a decimal integer of
64 bits, then a unit or nothing, with white space anywhere but inside these
two.  All letters of a readable text are those of its unit, which is why the
cut before the last row of letters is the only one that can be right.
-/

namespace TypedOptions

open Text (StartsPlain EndsPlain trim isBlank isAlphabetic)

/-! ## Units -/

namespace TimeUnit

/-- What may stand for a unit behind a number. -/
inductive Names : List Char → TimeUnit → Prop where
  | none : Names [] .seconds
  | suffix {unit : TimeUnit} (hunit : unit ∈ readable) : Names unit.suffix.toList unit

theorem ofSuffix?_eq_some_iff {letters : List Char} {unit : TimeUnit} :
    ofSuffix? (String.ofList letters) = some unit ↔
      unit ∈ readable ∧ letters = unit.suffix.toList := by
  constructor
  · intro h
    have hsuffix := List.find?_some h
    rw [beq_iff_eq] at hsuffix
    exact ⟨mem_readable_of_ofSuffix? h, by rw [hsuffix, String.toList_ofList]⟩
  · rintro ⟨hunit, rfl⟩
    rw [String.ofList_toList, ofSuffix?_suffix hunit]

theorem names_iff {letters : List Char} {unit : TimeUnit} :
    (if letters = [] then some seconds else ofSuffix? (String.ofList letters)) = some unit ↔
      Names letters unit := by
  constructor
  · intro h
    split at h
    · rename_i hnone
      cases h
      exact hnone ▸ .none
    · obtain ⟨hunit, rfl⟩ := ofSuffix?_eq_some_iff.1 h
      exact .suffix hunit
  · intro h
    cases h with
    | none => simp
    | suffix hunit => rw [if_neg unit.suffix_ne_nil, ofSuffix?_eq_some_iff.2 ⟨hunit, rfl⟩]

theorem ofSuffix?_suffix_eq_none {unit : TimeUnit} (hunit : unit ∉ readable) :
    ofSuffix? unit.suffix = none := by
  cases unit with
  | microseconds => decide
  | days => decide
  | _ => exact absurd (by decide) hunit

end TimeUnit

namespace TimeSpan

/-- The text is a number and perhaps a unit, and what surrounds these is white space. -/
inductive Spells : List Char → TimeSpan → Prop where
  | mk {before number between letters after : List Char} {t : TimeSpan}
      (hbefore : ∀ c ∈ before, isBlank c = true) (hnumber : IsDecimal number t.span.toInt)
      (hbetween : ∀ c ∈ between, isBlank c = true) (hletters : TimeUnit.Names letters t.unit)
      (hafter : ∀ c ∈ after, isBlank c = true) :
      Spells (before ++ number ++ between ++ letters ++ after) t

theorem ofParts?_eq_some_iff {number letters : List Char} {t : TimeSpan} :
    ofParts? .seconds (number, letters) = some t ↔
      IsDecimal number t.span.toInt ∧ TimeUnit.Names letters t.unit := by
  have hread (span : Int) : readInteger .long number = .ok span ↔
      IsDecimal number span ∧ IntegerRange.long.Contains span :=
    readInteger_eq_ok_iff (by decide)
  simp only [ofParts?, Option.bind_eq_some_iff, Option.map_eq_some_iff, toOption_eq_some_iff,
    TimeUnit.names_iff, hread]
  constructor
  · rintro ⟨unit, hunit, span, ⟨hdecimal, hrange⟩, rfl⟩
    rw [toInt_ofInt_of_contains hrange]
    exact ⟨hdecimal, hunit⟩
  · rintro ⟨hdecimal, hunit⟩
    exact ⟨t.unit, hunit, t.span.toInt, ⟨hdecimal, contains_toInt64 _⟩, by rw [Int64.ofInt_toInt]⟩

/-! ## What is read is spelled -/

theorem spells_of_read {text : String} {t : TimeSpan} (h : read text = .ok t) :
    Spells text.toList t := by
  rw [read_eq_ok_iff] at h
  obtain ⟨number, letters, hcut, hnumber, hletters⟩ :=
    exists_number_and_letters (trim text.toList)
  have htrim : trim letters = letters :=
    Text.trim_of_forall fun c hc => Text.isBlank_of_isAlphabetic (hletters c hc)
  rw [hcut, splitUnit_append hnumber hletters, htrim, ofParts?_eq_some_iff] at h
  obtain ⟨before, after, htext, hbefore, hafter⟩ := Text.exists_blanks_around_trim text.toList
  obtain ⟨lead, between, hparts, hlead, hbetween⟩ := Text.exists_blanks_around_trim number
  have hspelled : text.toList = (before ++ lead) ++ trim number ++ between ++ letters ++ after :=
    calc text.toList
      _ = before ++ (number ++ letters) ++ after := by rw [← hcut]; exact htext
      _ = before ++ ((lead ++ trim number ++ between) ++ letters) ++ after := by rw [← hparts]
      _ = _ := by simp only [List.append_assoc]
  rw [hspelled]
  exact .mk (List.forall_mem_append.2 ⟨hbefore, hlead⟩) h.1 hbetween h.2 hafter

/-! ## What is spelled is read -/

section Parts

variable {number between : List Char} {span : Int} (hnumber : IsDecimal number span)
  (hbetween : ∀ c ∈ between, isBlank c = true)
include hnumber hbetween

theorem trim_number_append : trim (number ++ between) = number := by
  rw [Text.trim_append_right number hbetween, Text.trim_of_forall fun _ => hnumber.isBlank_eq_false]

theorem isAlphabetic_of_mem_number_append :
    ∀ c ∈ number ++ between, isAlphabetic c = false := by
  intro c hc
  rcases List.mem_append.1 hc with hsign | hblank
  · exact hnumber.isAlphabetic_eq_false hsign
  · exact Text.isAlphabetic_of_isBlank (hbetween c hblank)

omit hbetween in
theorem trim_number_append_suffix (unit : TimeUnit) :
    trim (number ++ between ++ unit.suffix.toList) = number ++ between ++ unit.suffix.toList := by
  apply Text.trim_eq_self
  · obtain ⟨c, rest, rfl⟩ := List.exists_cons_of_ne_nil hnumber.ne_nil
    exact Text.startsPlain_cons_iff.2 (hnumber.isBlank_eq_false List.mem_cons_self)
  · intro c hc
    rw [List.getLast?_append_of_ne_nil _ unit.suffix_ne_nil] at hc
    exact (TimeUnit.isLetter_of_mem_suffix (List.mem_of_getLast? hc)).2.1

end Parts

/-- The cut is made where the unit begins, if there is one. -/
theorem splitUnit_trim_of_names {before number between letters after : List Char} {span : Int}
    {unit : TimeUnit} (hbefore : ∀ c ∈ before, isBlank c = true) (hnumber : IsDecimal number span)
    (hbetween : ∀ c ∈ between, isBlank c = true) (hletters : TimeUnit.Names letters unit)
    (hafter : ∀ c ∈ after, isBlank c = true) :
    splitUnit (trim (before ++ number ++ between ++ letters ++ after)) = (number, letters) := by
  have hplain := isAlphabetic_of_mem_number_append hnumber hbetween
  rw [Text.trim_append_right _ hafter]
  simp only [List.append_assoc]
  rw [Text.trim_append_left _ hbefore, ← List.append_assoc]
  cases hletters with
  | none =>
      have hdigits : ∀ c ∈ number.getLast?, isAlphabetic c = false := fun c hc =>
        hnumber.isAlphabetic_eq_false (List.mem_of_getLast? hc)
      rw [List.append_nil, trim_number_append hnumber hbetween, splitUnit_of_no_letter hdigits,
        Text.trim_of_forall fun _ => hnumber.isBlank_eq_false]
  | suffix hunit =>
      rw [trim_number_append_suffix hnumber, splitUnit_append
        (fun c hc => hplain c (List.mem_of_getLast? hc))
        (fun c hc => (TimeUnit.isLetter_of_mem_suffix hc).1),
        trim_number_append hnumber hbetween, TimeUnit.trim_suffix]

theorem read_of_spells {text : String} {t : TimeSpan} (h : Spells text.toList t) :
    read text = .ok t := by
  rw [read_eq_ok_iff]
  generalize text.toList = chars at h ⊢
  cases h with
  | mk hbefore hnumber hbetween hletters hafter =>
      rw [splitUnit_trim_of_names hbefore hnumber hbetween hletters hafter, ofParts?_eq_some_iff]
      exact ⟨hnumber, hletters⟩

theorem read_toText_of_not_readable {t : TimeSpan} (hunit : t.unit ∉ TimeUnit.readable) :
    read t.toText = .error (.unknownUnit t.toText) := by
  unfold read
  simp only [(isPiece_toText t).trim_eq, splitUnit_toText, if_neg t.unit.suffix_ne_nil,
    String.ofList_toList, TimeUnit.ofSuffix?_suffix_eq_none hunit]

/-- A time span is read back from its text if its unit is one of the five that are read, and the
text is refused for its unit otherwise.  What is read from any text has such a unit and is what the
text spells. -/
theorem read_exactly :
    (∀ t : TimeSpan, read t.toText =
      if t.unit ∈ TimeUnit.readable then .ok t else .error (.unknownUnit t.toText)) ∧
    ∀ (text : String) (t : TimeSpan),
      read text = .ok t ↔ t.unit ∈ TimeUnit.readable ∧ Spells text.toList t := by
  constructor
  · intro t
    split
    · exact read_toText ‹_›
    · exact read_toText_of_not_readable ‹_›
  · intro text t
    constructor
    · exact fun h => ⟨isReadable_of_read h, spells_of_read h⟩
    · exact fun h => read_of_spells h.2

end TimeSpan

end TypedOptions
