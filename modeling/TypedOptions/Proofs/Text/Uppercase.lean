import TypedOptions.Injection.Conversion
import TypedOptions.Proofs.Lists
import TypedOptions.Proofs.Text.Pieces

/-!
# What upper case leaves alone

Going to upper case, white space and the marks that structure a text stay
where they are, and no others come up.  So a text in upper case is cut into
the pieces that the text itself is cut into, each in upper case.
-/

namespace TypedOptions

namespace Text

/-! ## The case tables -/

theorem CodeTable.exists_range_of_containsCode {table : CodeTable} {code : Nat}
    (hcode : table.containsCode code = true) :
    ∃ range ∈ table, range.1 ≤ code ∧ code ≤ range.2 := by
  induction table with
  | nil => cases hcode
  | cons range rest ih =>
      rw [containsCode_cons] at hcode
      split at hcode
      · cases hcode
      · rename_i hfirst
        split at hcode
        · rename_i hlast
          exact ⟨range, List.mem_cons_self, by omega, hlast⟩
        · obtain ⟨found, hfound, hbounds⟩ := ih hcode
          exact ⟨found, List.mem_cons_of_mem _ hfound, hbounds⟩

/-- No code from `first` to `last` is that of white space. -/
def avoidsBlanks (first last : Nat) : Bool :=
  blankTable.all fun range => last < range.1 || range.2 < first

theorem not_containsCode_of_avoidsBlanks {first last code : Nat}
    (havoids : avoidsBlanks first last = true) (hfirst : first ≤ code) (hlast : code ≤ last) :
    blankTable.containsCode code = false := by
  rw [← Bool.not_eq_true]
  intro hblank
  obtain ⟨range, hrange, hlow, hhigh⟩ := CodeTable.exists_range_of_containsCode hblank
  have hapart := List.all_eq_true.1 havoids range hrange
  simp only [Bool.or_eq_true, decide_eq_true_eq] at hapart
  omega

/-- The code of a capital letter of ASCII, or of a character beyond ASCII that is no white space. -/
def IsPlainCode (code : Nat) : Prop :=
  0x41 ≤ code ∧ code ≤ 0x5A ∨ 0x80 ≤ code ∧ blankTable.containsCode code = false

def arePlainCodes (first last : Nat) : Bool :=
  0x41 ≤ first && last ≤ 0x5A || 0x80 ≤ first && avoidsBlanks first last

theorem isPlainCode_of_arePlainCodes {first last code : Nat}
    (hplain : arePlainCodes first last = true) (hfirst : first ≤ code) (hlast : code ≤ last) :
    IsPlainCode code := by
  simp only [arePlainCodes, Bool.or_eq_true, Bool.and_eq_true, decide_eq_true_eq] at hplain
  rcases hplain with hcapital | ⟨hbeyond, havoids⟩
  · exact Or.inl (by omega)
  · exact Or.inr ⟨by omega, not_containsCode_of_avoidsBlanks havoids hfirst hlast⟩

theorem plain_upperSpecial : upperSpecial.all (fun entry =>
    !blankTable.containsCode entry.1 && !entry.2.isEmpty &&
      entry.2.all fun code => arePlainCodes code code) = true := by
  decide +kernel

theorem plain_upperRuns : upperRuns.all (fun run =>
    avoidsBlanks run.first run.last &&
      arePlainCodes (run.first + run.offset).toNat (run.last + run.offset).toNat) = true := by
  decide +kernel

/-! ## Marks -/

/-- The characters that structure texts: white space, slashes, points and commas. -/
def isMark (c : Char) : Bool :=
  isBlank c || c == '/' || c == '.' || c == ','

/-- Neither a mark nor a small letter of the name of the directory for temporary files. -/
def isUpper (c : Char) : Bool :=
  !isMark c && c != 't'

theorem toNat_ofNat_of_isValidChar {code : Nat} (hvalid : code.isValidChar) :
    (Char.ofNat code).toNat = code := by
  unfold Char.ofNat
  rw [dif_pos hvalid]
  rfl

/-- Among the codes that are no characters there is no mark either. -/
theorem isUpper_of_isPlainCode {code : Nat} (hplain : IsPlainCode code) :
    isUpper (Char.ofNat code) = true := by
  by_cases hvalid : code.isValidChar
  · have hcode := toNat_ofNat_of_isValidChar hvalid
    have hblank : isBlank (Char.ofNat code) = false := by
      unfold isBlank CodeTable.contains
      rw [hcode]
      rcases hplain with ⟨hfirst, hlast⟩ | ⟨-, hblank⟩
      · exact not_containsCode_of_avoidsBlanks (by decide) hfirst hlast
      · exact hblank
    have hne : ∀ c : Char, c.toNat < 0x41 ∨ 0x5A < c.toNat ∧ c.toNat < 0x80 →
        Char.ofNat code ≠ c := by
      intro c hrange heq
      have hsame : code = c.toNat := by rw [← heq, hcode]
      unfold IsPlainCode at hplain
      omega
    simp [isUpper, isMark, hblank, hne '/' (by decide), hne '.' (by decide), hne ',' (by decide),
      hne 't' (by decide)]
  · have hnull : Char.ofNat code = '\x00' := by
      unfold Char.ofNat
      rw [dif_neg hvalid]
      rfl
    rw [hnull]
    decide

/-- What upper case makes of a character: it stays, or it is no mark and no marks come of it. -/
def MapsPlainly (c : Char) : Prop :=
  upperChar c = [c] ∧ c ≠ 't' ∨
    isMark c = false ∧ upperChar c ≠ [] ∧ (upperChar c).all isUpper = true

instance (c : Char) : Decidable (MapsPlainly c) :=
  inferInstanceAs (Decidable (_ ∨ _))

theorem mapsPlainly_of_ascii : ∀ code < 0x80, MapsPlainly (Char.ofNat code) := by
  decide +kernel

theorem isMark_of_le {c : Char} (hbeyond : 0x80 ≤ c.toNat) : isMark c = isBlank c := by
  have hne : ∀ mark : Char, mark.toNat < 0x80 → c ≠ mark := by
    rintro mark hascii rfl
    omega
  have hslash : (c == '/') = false := beq_eq_false_iff_ne.2 (hne '/' (by decide))
  have hpoint : (c == '.') = false := beq_eq_false_iff_ne.2 (hne '.' (by decide))
  have hcomma : (c == ',') = false := beq_eq_false_iff_ne.2 (hne ',' (by decide))
  rw [isMark, hslash, hpoint, hcomma, Bool.or_false, Bool.or_false, Bool.or_false]

theorem mapsPlainly_of_special {c : Char} {codes : List Nat} (hbeyond : 0x80 ≤ c.toNat)
    (hspecial : upperSpecial.lookup c.toNat = some codes) : MapsPlainly c := by
  have hplain := List.all_eq_true.1 plain_upperSpecial _ (mem_of_lookup hspecial)
  simp only [Bool.and_eq_true, Bool.not_eq_true', List.all_eq_true] at hplain
  obtain ⟨⟨hblank, hne⟩, hcodes⟩ := hplain
  have hupper : upperChar c = codes.map Char.ofNat := by
    rw [upperChar, if_neg (by omega), mapCase, hspecial]
  refine Or.inr ⟨?_, ?_, List.all_eq_true.2 fun upper hmem => ?_⟩
  · rw [isMark_of_le hbeyond]
    exact hblank
  · rw [hupper]
    simpa using hne
  · rw [hupper] at hmem
    obtain ⟨code, hcode, rfl⟩ := List.mem_map.1 hmem
    exact isUpper_of_isPlainCode
      (isPlainCode_of_arePlainCodes (hcodes code hcode) (Nat.le_refl _) (Nat.le_refl _))

theorem mapsPlainly_of_run {c : Char} {run : CaseRun} (hbeyond : 0x80 ≤ c.toNat)
    (hspecial : upperSpecial.lookup c.toNat = none)
    (hrun : upperRuns.find? (·.covers c.toNat) = some run) : MapsPlainly c := by
  have hplain := List.all_eq_true.1 plain_upperRuns _ (List.mem_of_find?_eq_some hrun)
  have hcovers := List.find?_some hrun
  simp only [CaseRun.covers, Bool.and_eq_true, decide_eq_true_eq] at hplain hcovers
  obtain ⟨havoids, hmoved⟩ := hplain
  have hupper : upperChar c = [Char.ofNat (c.toNat + run.offset).toNat] := by
    rw [upperChar, if_neg (by omega), mapCase, hspecial, moveByRuns, hrun]
  refine Or.inr ⟨?_, ?_, List.all_eq_true.2 fun upper hmem => ?_⟩
  · rw [isMark_of_le hbeyond]
    exact not_containsCode_of_avoidsBlanks havoids hcovers.1.1 hcovers.1.2
  · rw [hupper]
    simp
  · rw [hupper] at hmem
    rw [List.mem_singleton.1 hmem]
    exact isUpper_of_isPlainCode
      (isPlainCode_of_arePlainCodes hmoved (by omega) (by omega))

theorem mapsPlainly (c : Char) : MapsPlainly c := by
  by_cases hascii : c.toNat < 0x80
  · rw [← Char.ofNat_toNat c]
    exact mapsPlainly_of_ascii c.toNat hascii
  · have hbeyond : 0x80 ≤ c.toNat := by omega
    cases hspecial : upperSpecial.lookup c.toNat with
    | some codes => exact mapsPlainly_of_special hbeyond hspecial
    | none =>
        cases hrun : upperRuns.find? (·.covers c.toNat) with
        | some run => exact mapsPlainly_of_run hbeyond hspecial hrun
        | none =>
            left
            constructor
            · rw [upperChar, if_neg hascii, mapCase, hspecial, moveByRuns, hrun, Char.ofNat_toNat]
            · rintro rfl
              revert hascii
              decide

theorem upperChar_of_isMark {c : Char} (hmark : isMark c = true) : upperChar c = [c] := by
  rcases mapsPlainly c with ⟨hstays, -⟩ | ⟨hplain, -⟩
  · exact hstays
  · rw [hplain] at hmark
    cases hmark

theorem upperChar_ne_nil (c : Char) : upperChar c ≠ [] := by
  rcases mapsPlainly c with ⟨hstays, -⟩ | ⟨-, hne, -⟩
  · simp [hstays]
  · exact hne

theorem isMark_of_mem_upperChar {c upper : Char} (hupper : upper ∈ upperChar c) :
    isMark upper = isMark c := by
  rcases mapsPlainly c with ⟨hstays, -⟩ | ⟨hplain, -, hall⟩
  · rw [hstays, List.mem_singleton] at hupper
    rw [hupper]
  · have hresult := List.all_eq_true.1 hall upper hupper
    simp only [isUpper, Bool.and_eq_true, Bool.not_eq_true'] at hresult
    rw [hplain, hresult.1]

theorem t_not_mem_upperChar (c : Char) : 't' ∉ upperChar c := by
  intro hupper
  rcases mapsPlainly c with ⟨hstays, hne⟩ | ⟨-, -, hall⟩
  · rw [hstays, List.mem_singleton] at hupper
    exact hne hupper.symm
  · cases List.all_eq_true.1 hall 't' hupper

/-! ## Pieces of texts in upper case -/

section Changed

variable {separator : Char} {blank : Char → Bool} {change : Char → List Char}

/-- A text is cut where it was cut before its characters were changed. -/
theorem splitAll_flatMap (hseparator : change separator = [separator])
    (hother : ∀ c, c ≠ separator → separator ∉ change c) (text : List Char) :
    splitAll separator (text.flatMap change) =
      (splitAll separator text).map fun piece => piece.flatMap change := by
  induction text with
  | nil => rfl
  | cons c rest ih =>
      rw [List.flatMap_cons]
      by_cases hc : c = separator
      · rw [hc, hseparator, List.singleton_append, splitAll, splitAll, if_pos rfl, if_pos rfl, ih,
          List.map_cons, List.flatMap_nil]
      · rw [splitAll_append_of_not_mem _ (hother c hc), ih, splitAll, if_neg hc]
        cases splitAll separator rest with
        | nil => simp
        | cons piece more => simp

theorem dropWhile_flatMap (hblank : ∀ c, blank c = true → change c = [c])
    (hother : ∀ c, blank c = false → change c ≠ [] ∧ ∀ changed ∈ change c, blank changed = false)
    (text : List Char) :
    (text.flatMap change).dropWhile blank = (text.dropWhile blank).flatMap change := by
  induction text with
  | nil => rfl
  | cons c rest ih =>
      cases hc : blank c with
      | true => simp [hblank c hc, hc, ih]
      | false =>
          obtain ⟨hne, hplain⟩ := hother c hc
          obtain ⟨first, more, hchange⟩ := List.exists_cons_of_ne_nil hne
          have hfirst : blank first = false := hplain first (by simp [hchange])
          simp [hchange, hfirst, hc]

theorem trim_flatMap (hblank : ∀ c, isBlank c = true → change c = [c])
    (hother : ∀ c, isBlank c = false →
      change c ≠ [] ∧ ∀ changed ∈ change c, isBlank changed = false) (text : List Char) :
    trim (text.flatMap change) = (trim text).flatMap change := by
  have hreversed : ∀ c, isBlank c = false →
      (change c).reverse ≠ [] ∧ ∀ changed ∈ (change c).reverse, isBlank changed = false := by
    intro c hc
    obtain ⟨hne, hplain⟩ := hother c hc
    exact ⟨by simpa using hne, by simpa using hplain⟩
  have hstays : ∀ c, isBlank c = true → (change c).reverse = [c] := by
    intro c hc
    rw [hblank c hc, List.reverse_singleton]
  unfold trim trimStart trimEnd
  rw [dropWhile_flatMap hblank hother, List.reverse_flatMap, Function.comp_def,
    dropWhile_flatMap hstays hreversed, List.reverse_flatMap]
  simp [Function.comp_def]

end Changed

theorem toList_uppercase (text : String) :
    (uppercase text).toList = text.toList.flatMap upperChar := by
  rw [uppercase, String.toList_ofList]

theorem upperChar_of_isBlank {c : Char} (hblank : isBlank c = true) : upperChar c = [c] :=
  upperChar_of_isMark (by rw [isMark, hblank]; rfl)

theorem isBlank_of_mem_upperChar {c upper : Char} (hblank : isBlank c = false)
    (hupper : upper ∈ upperChar c) : isBlank upper = false := by
  cases hmark : isMark c with
  | true =>
      rw [upperChar_of_isMark hmark, List.mem_singleton] at hupper
      rwa [hupper]
  | false =>
      have hplain := isMark_of_mem_upperChar hupper
      rw [hmark, isMark] at hplain
      simp only [Bool.or_eq_false_iff] at hplain
      exact hplain.1.1.1

theorem not_mem_upperChar {c mark : Char} (hmark : isMark mark = true) (hne : c ≠ mark) :
    mark ∉ upperChar c := by
  intro hupper
  have hc : isMark c = true := (isMark_of_mem_upperChar hupper).symm.trans hmark
  rw [upperChar_of_isMark hc, List.mem_singleton] at hupper
  exact hne hupper.symm

theorem flatMap_upperChar_eq_nil_iff {text : List Char} :
    text.flatMap upperChar = [] ↔ text = [] := by
  cases text with
  | nil => simp
  | cons c rest => simp [upperChar_ne_nil]

theorem splitAll_upperChar {separator : Char} (hmark : isMark separator = true)
    (text : List Char) :
    splitAll separator (text.flatMap upperChar) =
      (splitAll separator text).map fun piece => piece.flatMap upperChar :=
  splitAll_flatMap (upperChar_of_isMark hmark) (fun _ hne => not_mem_upperChar hmark hne) text

theorem trim_upperChar (text : List Char) :
    trim (text.flatMap upperChar) = (trim text).flatMap upperChar :=
  trim_flatMap (fun _ => upperChar_of_isBlank)
    (fun c hblank => ⟨upperChar_ne_nil c, fun _ => isBlank_of_mem_upperChar hblank⟩) text

/-- A text that only consists of marks comes of no other one. -/
theorem eq_of_flatMap_upperChar {text marks : List Char}
    (hmarks : marks.all isMark = true) (htext : text.flatMap upperChar = marks) :
    text = marks := by
  induction text generalizing marks with
  | nil => exact htext
  | cons c rest ih =>
      obtain ⟨first, more, hfirst⟩ := List.exists_cons_of_ne_nil (upperChar_ne_nil c)
      have hmem : first ∈ upperChar c := by simp [hfirst]
      have hc : isMark c = true := by
        rw [← isMark_of_mem_upperChar hmem]
        apply List.all_eq_true.1 hmarks
        simp [← htext, hfirst]
      rw [List.flatMap_cons, upperChar_of_isMark hc, List.singleton_append] at htext
      subst htext
      rw [List.all_cons, Bool.and_eq_true] at hmarks
      rw [← ih hmarks.2 rfl]

end Text

namespace OptionDeclaration

/-- The elements of a collection in upper case. -/
theorem elementTexts_uppercase (text : String) :
    elementTexts (Text.uppercase text) = (elementTexts text).map Text.uppercase := by
  have hpieces : ((Text.splitAll ',' (Text.uppercase text).toList).map Text.trim).filter (· ≠ []) =
      (((Text.splitAll ',' text.toList).map Text.trim).filter (· ≠ [])).map
        fun piece => piece.flatMap Text.upperChar := by
    rw [Text.toList_uppercase, Text.splitAll_upperChar (by decide), List.map_map, List.filter_map,
      List.filter_map, List.map_map]
    simp only [Function.comp_def, Text.trim_upperChar, ne_eq, Text.flatMap_upperChar_eq_nil_iff]
  unfold elementTexts
  rw [hpieces, List.map_map, List.map_map]
  apply List.map_congr_left
  intro piece _
  simp [Text.uppercase]

end OptionDeclaration

end TypedOptions
