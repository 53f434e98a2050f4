import Mathlib.Data.List.Basic
import TypedOptions.Proofs.Text.Trimming

/-!
# Pieces between separators

A text is cut at every separator, and pieces without separators come back
from their joined text.  Where pieces are trimmed and empty ones left out, a
text comes back as it is if there is nothing to trim and to cut.
-/

namespace TypedOptions

namespace Text

theorem splitAll_append_separator (separator : Char) (before after : List Char) :
    splitAll separator (before ++ separator :: after) =
      splitAll separator before ++ splitAll separator after := by
  induction before with
  | nil => simp [splitAll]
  | cons c rest ih =>
      by_cases hc : c = separator
      · simp [splitAll, hc, ih]
      · simp only [List.cons_append, splitAll, hc, if_false, ih]
        cases hsplit : splitAll separator rest with
        | nil => exact absurd hsplit (splitAll_ne_nil separator rest)
        | cons piece more => rfl

theorem splitAll_append_of_not_mem {separator : Char} {before : List Char} (text : List Char)
    (hbefore : separator ∉ before) :
    splitAll separator (before ++ text) =
      match splitAll separator text with
      | [] => [before]
      | piece :: more => (before ++ piece) :: more := by
  induction before with
  | nil =>
      cases hsplit : splitAll separator text with
      | nil => exact absurd hsplit (splitAll_ne_nil separator text)
      | cons piece more => simp [hsplit]
  | cons c rest ih =>
      obtain ⟨hc, hrest⟩ := not_or.1 fun hmem => hbefore (List.mem_cons.2 hmem)
      rw [List.cons_append, splitAll, if_neg (fun heq => hc heq.symm), ih hrest]
      cases splitAll separator text <;> rfl

theorem not_mem_of_mem_splitAll {separator : Char} {text piece : List Char}
    (hpiece : piece ∈ splitAll separator text) : separator ∉ piece := by
  induction text generalizing piece with
  | nil =>
      rw [List.mem_singleton.1 hpiece]
      exact List.not_mem_nil
  | cons c rest ih =>
      by_cases hc : c = separator
      · simp only [splitAll, hc, if_true, List.mem_cons] at hpiece
        rcases hpiece with rfl | hrest
        · exact List.not_mem_nil
        · exact ih hrest
      · cases hsplit : splitAll separator rest with
        | nil => exact absurd hsplit (splitAll_ne_nil separator rest)
        | cons first more =>
            rw [hsplit] at ih
            simp only [splitAll, hc, if_false, hsplit, List.mem_cons] at hpiece
            rcases hpiece with rfl | hmore
            · have hfirst := ih List.mem_cons_self
              simp only [List.mem_cons, not_or]
              exact ⟨fun heq => hc heq.symm, hfirst⟩
            · exact ih (List.mem_cons_of_mem _ hmore)

theorem splitAll_of_not_mem {separator : Char} {text : List Char} (htext : separator ∉ text) :
    splitAll separator text = [text] := by
  induction text with
  | nil => rfl
  | cons c rest ih =>
      simp only [List.mem_cons, not_or] at htext
      have hc : c ≠ separator := fun heq => htext.1 heq.symm
      simp only [splitAll, hc, if_false, ih htext.2]

theorem splitAll_intercalate {separator : Char} {pieces : List (List Char)} (hne : pieces ≠ [])
    (hpieces : ∀ piece ∈ pieces, separator ∉ piece) :
    splitAll separator ([separator].intercalate pieces) = pieces := by
  induction pieces with
  | nil => exact absurd rfl hne
  | cons piece rest ih =>
      have hpiece := splitAll_of_not_mem (hpieces piece List.mem_cons_self)
      cases rest with
      | nil => simpa using hpiece
      | cons next more =>
          have hrest := ih (by simp) fun other hother => hpieces other (List.mem_cons_of_mem _ hother)
          rw [List.intercalate_cons_cons, List.append_assoc, List.singleton_append,
            splitAll_append_separator, hpiece, hrest]
          rfl

theorem intercalate_splitAll (separator : Char) (text : List Char) :
    [separator].intercalate (splitAll separator text) = text := by
  induction text with
  | nil => rfl
  | cons c rest ih =>
      obtain ⟨piece, more, hsplit⟩ := List.exists_cons_of_ne_nil (splitAll_ne_nil separator rest)
      rw [hsplit] at ih
      by_cases hc : c = separator
      · rw [splitAll, if_pos hc, hsplit, List.intercalate_cons_cons, ih, hc]
        rfl
      · rw [splitAll, if_neg hc, hsplit, ← ih]
        cases more with
        | nil => rfl
        | cons next others =>
            rw [List.intercalate_cons_cons, List.intercalate_cons_cons]
            rfl

theorem count_flatten_splitAll {separator c : Char} (hne : c ≠ separator) (text : List Char) :
    (splitAll separator text).flatten.count c = text.count c := by
  induction text with
  | nil => rfl
  | cons first rest ih =>
      obtain ⟨piece, more, hsplit⟩ := List.exists_cons_of_ne_nil (splitAll_ne_nil separator rest)
      by_cases hfirst : first = separator
      · rw [splitAll, if_pos hfirst, List.count_cons_of_ne (hfirst ▸ hne.symm)]
        exact ih
      · rw [hsplit] at ih
        rw [splitAll, if_neg hfirst, hsplit, List.flatten_cons, List.cons_append, List.count_cons,
          List.count_cons, ← ih, List.flatten_cons]

/-- A text that stays as it is between commas. -/
structure IsPiece (text : List Char) : Prop where
  nonempty : text ≠ []
  startsPlain : StartsPlain text
  endsPlain : EndsPlain text
  noComma : ',' ∉ text

instance (text : List Char) : Decidable (IsPiece text) :=
  decidable_of_iff (text ≠ [] ∧ StartsPlain text ∧ EndsPlain text ∧ ',' ∉ text)
    ⟨fun ⟨hne, hstart, hfinish, hcomma⟩ => ⟨hne, hstart, hfinish, hcomma⟩,
      fun hpiece => ⟨hpiece.1, hpiece.2, hpiece.3, hpiece.4⟩⟩

theorem IsPiece.trim_eq {text : List Char} (hpiece : IsPiece text) : trim text = text :=
  trim_eq_self hpiece.startsPlain hpiece.endsPlain

theorem isPiece_of_forall {text : List Char} (hne : text ≠ [])
    (hplain : ∀ c ∈ text, isBlank c = false ∧ c ≠ ',') : IsPiece text where
  nonempty := hne
  startsPlain _ hc := (hplain _ (List.mem_of_mem_head? hc)).1
  endsPlain _ hc := (hplain _ (List.mem_of_getLast? hc)).1
  noComma hcomma := (hplain ',' hcomma).2 rfl

theorem isPiece_trim {text : List Char} (hne : trim text ≠ []) (hcomma : ',' ∉ text) :
    IsPiece (trim text) where
  nonempty := hne
  startsPlain := startsPlain_trim text
  endsPlain := endsPlain_trim text
  noComma hmem := hcomma (mem_of_mem_trim hmem)

end Text

end TypedOptions
