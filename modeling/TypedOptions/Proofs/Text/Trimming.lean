import Mathlib.Data.List.Infix
import TypedOptions.Text.Blank
import TypedOptions.Text.Lines

/-!
# Trimmed texts

A trimmed text has no white space at its two ends, and a text without white
space there is trimmed already.  The ends are trimmed independently of each
other, and a character that is no white space protects all that stands before
it.  A line that is written into a text is read from it again, but for a
carriage return that trimming would take away in any case.
-/

namespace TypedOptions

namespace Text

def StartsPlain (text : List Char) : Prop :=
  ∀ c ∈ text.head?, isBlank c = false

def EndsPlain (text : List Char) : Prop :=
  ∀ c ∈ text.getLast?, isBlank c = false

theorem startsPlain_nil : StartsPlain [] := by
  simp [StartsPlain]

theorem startsPlain_cons_iff {c : Char} {rest : List Char} :
    StartsPlain (c :: rest) ↔ isBlank c = false := by
  simp [StartsPlain]

theorem startsPlain_reverse_iff {text : List Char} : StartsPlain text.reverse ↔ EndsPlain text := by
  unfold StartsPlain EndsPlain
  rw [List.head?_reverse]

instance : (text : List Char) → Decidable (StartsPlain text)
  | [] => isTrue startsPlain_nil
  | _ :: _ => decidable_of_iff _ startsPlain_cons_iff.symm

instance (text : List Char) : Decidable (EndsPlain text) :=
  decidable_of_iff _ startsPlain_reverse_iff

theorem StartsPlain.of_isPrefix {text part : List Char} (htext : StartsPlain text)
    (hpart : part <+: text) : StartsPlain part := by
  obtain ⟨rest, rfl⟩ := hpart
  cases part with
  | nil => exact startsPlain_nil
  | cons c more => exact startsPlain_cons_iff.2 (htext c rfl)

theorem StartsPlain.append {first second : List Char} (hfirst : StartsPlain first)
    (hsecond : StartsPlain second) : StartsPlain (first ++ second) := by
  cases first with
  | nil => exact hsecond
  | cons c rest => exact startsPlain_cons_iff.2 (hfirst c rfl)

/-! ## One end -/

theorem trimStart_eq_self {text : List Char} (htext : StartsPlain text) :
    trimStart text = text := by
  cases text with
  | nil => rfl
  | cons c rest => exact trimStart_cons_of_not_isBlank rest (htext c rfl)

theorem startsPlain_trimStart (text : List Char) : StartsPlain (trimStart text) := by
  induction text with
  | nil => exact startsPlain_nil
  | cons c rest ih =>
      by_cases hc : isBlank c = true
      · rw [trimStart_cons_of_isBlank rest hc]
        exact ih
      · rw [Bool.not_eq_true] at hc
        rw [trimStart_cons_of_not_isBlank rest hc]
        exact startsPlain_cons_iff.2 hc

/-- The end is found from the front as well: a character is cut off if it is white space and
nothing of what follows is kept. -/
theorem trimEnd_cons (c : Char) (rest : List Char) :
    trimEnd (c :: rest) =
      if isBlank c = true ∧ trimEnd rest = [] then [] else c :: trimEnd rest := by
  have hnil : trimEnd rest = [] ↔ (rest.reverse.dropWhile isBlank).isEmpty = true := by
    simp [trimEnd]
  unfold trimEnd at hnil ⊢
  rw [List.reverse_cons, List.dropWhile_append]
  by_cases hrest : (rest.reverse.dropWhile isBlank).isEmpty = true
  · cases hc : isBlank c <;> simp [hrest, hc, hnil.2 hrest]
  · simp [hrest, hnil]

theorem trimEnd_cons_of_not_isBlank {c : Char} (rest : List Char) (hc : isBlank c = false) :
    trimEnd (c :: rest) = c :: trimEnd rest := by
  simp [trimEnd_cons, hc]

theorem trimEnd_append_cons {c : Char} (before after : List Char) (hc : isBlank c = false) :
    trimEnd (before ++ c :: after) = before ++ c :: trimEnd after := by
  induction before with
  | nil => exact trimEnd_cons_of_not_isBlank after hc
  | cons first rest ih =>
      rw [List.cons_append, trimEnd_cons, ih]
      simp

theorem trimEnd_eq_self {text : List Char} (htext : EndsPlain text) : trimEnd text = text := by
  rcases List.eq_nil_or_concat text with rfl | ⟨before, c, rfl⟩
  · rfl
  · rw [List.concat_eq_append] at htext ⊢
    exact trimEnd_append_of_not_isBlank before (htext c (by simp))

theorem isPrefix_trimEnd (text : List Char) : trimEnd text <+: text := by
  induction text with
  | nil => exact List.nil_prefix
  | cons c rest ih =>
      rw [trimEnd_cons]
      split
      · exact List.nil_prefix
      · exact List.cons_prefix_cons.2 ⟨rfl, ih⟩

theorem endsPlain_trimEnd (text : List Char) : EndsPlain (trimEnd text) := by
  intro c hlast
  unfold trimEnd at hlast
  rw [List.getLast?_reverse] at hlast
  exact startsPlain_trimStart text.reverse c hlast

/-! ## Both ends -/

theorem trimStart_trimEnd (text : List Char) :
    trimStart (trimEnd text) = trimEnd (trimStart text) := by
  induction text with
  | nil => rfl
  | cons c rest ih =>
      by_cases hc : isBlank c = true
      · rw [trimStart_cons_of_isBlank rest hc, ← ih, trimEnd_cons]
        split
        · rename_i hnone
          rw [hnone.2]
        · exact trimStart_cons_of_isBlank _ hc
      · rw [Bool.not_eq_true] at hc
        rw [trimStart_cons_of_not_isBlank rest hc, trimEnd_cons_of_not_isBlank rest hc,
          trimStart_cons_of_not_isBlank _ hc]

theorem startsPlain_trim (text : List Char) : StartsPlain (trim text) := by
  rw [trim, ← trimStart_trimEnd]
  exact startsPlain_trimStart _

theorem endsPlain_trim (text : List Char) : EndsPlain (trim text) :=
  endsPlain_trimEnd _

theorem trim_of_startsPlain {text : List Char} (htext : StartsPlain text) :
    trim text = trimEnd text := by
  rw [trim, trimStart_eq_self htext]

theorem trim_eq_self {text : List Char} (hstart : StartsPlain text) (hfinish : EndsPlain text) :
    trim text = text := by
  rw [trim_of_startsPlain hstart, trimEnd_eq_self hfinish]

theorem trim_of_forall {text : List Char} (htext : ∀ c ∈ text, isBlank c = false) :
    trim text = text :=
  trim_eq_self (fun c hc => htext c (List.mem_of_mem_head? hc))
    fun c hc => htext c (List.mem_of_getLast? hc)

theorem trim_trimEnd (text : List Char) : trim (trimEnd text) = trim text := by
  rw [trim, trimStart_trimEnd, trimEnd_eq_self (endsPlain_trimEnd _), trim]

theorem trim_cons_of_isBlank {c : Char} (text : List Char) (hc : isBlank c = true) :
    trim (c :: text) = trim text := by
  rw [trim, trimStart_cons_of_isBlank text hc, trim]

theorem trim_append_of_isBlank {c : Char} (text : List Char) (hc : isBlank c = true) :
    trim (text ++ [c]) = trim text := by
  rw [← trim_trimEnd, trimEnd_append_of_isBlank text hc, trim_trimEnd]

theorem trim_append_left {blanks : List Char} (text : List Char)
    (hblanks : ∀ c ∈ blanks, isBlank c = true) : trim (blanks ++ text) = trim text := by
  induction blanks with
  | nil => rfl
  | cons c rest ih =>
      obtain ⟨hc, hrest⟩ := List.forall_mem_cons.1 hblanks
      rw [List.cons_append, trim_cons_of_isBlank _ hc, ih hrest]

theorem trim_append_right {blanks : List Char} (text : List Char)
    (hblanks : ∀ c ∈ blanks, isBlank c = true) : trim (text ++ blanks) = trim text := by
  induction blanks generalizing text with
  | nil => simp
  | cons c rest ih =>
      obtain ⟨hc, hrest⟩ := List.forall_mem_cons.1 hblanks
      have hsplit : text ++ c :: rest = (text ++ [c]) ++ rest := by simp
      rw [hsplit, ih _ hrest, trim_append_of_isBlank text hc]

/-- All that trimming takes away is white space. -/
theorem exists_blanks_around_trim (text : List Char) :
    ∃ before after, text = before ++ trim text ++ after ∧
      (∀ c ∈ before, isBlank c = true) ∧ ∀ c ∈ after, isBlank c = true := by
  have hblanks : ∀ (row : List Char), ∀ c ∈ row.takeWhile isBlank, isBlank c = true :=
    fun row => List.all_eq_true.1 List.all_takeWhile
  refine ⟨text.takeWhile isBlank, ((trimStart text).reverse.takeWhile isBlank).reverse, ?_,
    hblanks text, fun c hc => hblanks _ c (List.mem_reverse.1 hc)⟩
  have hend : trimStart text =
      trim text ++ ((trimStart text).reverse.takeWhile isBlank).reverse := by
    rw [trim, trimEnd, ← List.reverse_append, List.takeWhile_append_dropWhile,
      List.reverse_reverse]
  rw [List.append_assoc, ← hend, trimStart, List.takeWhile_append_dropWhile]

theorem mem_of_mem_trim {text : List Char} {c : Char} (hc : c ∈ trim text) : c ∈ text := by
  have hstart : c ∈ trimStart text := (isPrefix_trimEnd _).subset hc
  exact (List.dropWhile_suffix isBlank).subset hstart

/-! ## Lines -/

theorem not_mem_newline_of_mem_lines {text line : List Char} (hline : line ∈ lines text) :
    '\n' ∉ line := by
  induction text using lines.induct generalizing line with
  | case1 => simp at hline
  | case2 rest ih =>
      rw [lines_newline] at hline
      rcases List.mem_cons.1 hline with rfl | hrest
      · exact List.not_mem_nil
      · exact ih hrest
  | case3 rest ih =>
      rw [lines] at hline
      rcases List.mem_cons.1 hline with rfl | hrest
      · exact List.not_mem_nil
      · exact ih hrest
  | case4 c rest hnewline hreturn hlines ih =>
      rw [lines, hlines] at hline
      · rw [List.mem_singleton.1 hline, List.mem_singleton]
        exact fun heq => hnewline heq.symm
      all_goals assumption
  | case5 c rest hnewline hreturn first more hlines ih =>
      rw [lines, hlines] at hline
      · rw [hlines] at ih
        rcases List.mem_cons.1 hline with rfl | hmore
        · rw [List.mem_cons, not_or]
          exact ⟨fun heq => hnewline heq.symm, ih List.mem_cons_self⟩
        · exact ih (List.mem_cons_of_mem _ hmore)
      all_goals assumption

theorem lines_of_not_mem_newline {line : List Char} (hline : '\n' ∉ line) (hne : line ≠ []) :
    lines line = [line] := by
  induction line with
  | nil => exact absurd rfl hne
  | cons c rest ih =>
      rw [List.mem_cons, not_or] at hline
      cases rest with
      | nil =>
          rw [lines, lines_nil]
          · exact fun heq => hline.1 heq.symm
          · exact fun more _ heq => by cases heq
      | cons next more =>
          rw [lines, ih hline.2 (List.cons_ne_nil _ _)]
          · exact fun heq => hline.1 heq.symm
          · rintro tail - heq
            exact hline.2 (heq ▸ List.mem_cons_self)

theorem lines_append_newline {line : List Char} (rest : List Char) (hline : '\n' ∉ line) :
    ∃ shown, lines (line ++ '\n' :: rest) = shown :: lines rest ∧
      (line = shown ∨ line = shown ++ ['\r']) := by
  induction line with
  | nil => exact ⟨[], lines_newline rest, Or.inl rfl⟩
  | cons c more ih =>
      rw [List.mem_cons, not_or] at hline
      by_cases hreturn : c = '\r' ∧ more = []
      · obtain ⟨rfl, rfl⟩ := hreturn
        exact ⟨[], by simp [lines], Or.inr rfl⟩
      · obtain ⟨shown, hlines, hshown⟩ := ih hline.2
        refine ⟨c :: shown, ?_, ?_⟩
        · rw [List.cons_append, lines, hlines]
          · exact fun heq => hline.1 heq.symm
          · intro other hc hmore
            cases more with
            | nil => exact hreturn ⟨hc, rfl⟩
            | cons next tail =>
                rw [List.cons_append, List.cons.injEq] at hmore
                exact hline.2 (hmore.1 ▸ List.mem_cons_self)
        · rcases hshown with rfl | rfl
          · exact Or.inl rfl
          · exact Or.inr rfl

/-- A carriage return at the end of a line is lost, but it would be trimmed away in any case. -/
theorem exists_line_of_append_newline {line : List Char} (rest : List Char) (hline : '\n' ∉ line) :
    ∃ shown, lines (line ++ '\n' :: rest) = shown :: lines rest ∧ trim shown = trim line := by
  obtain ⟨shown, hlines, hshown⟩ := lines_append_newline rest hline
  refine ⟨shown, hlines, ?_⟩
  rcases hshown with rfl | rfl
  · rfl
  · exact (trim_append_of_isBlank shown (by decide)).symm

end Text

end TypedOptions
