import TypedOptions.Proofs.OptionsFile.Inclusion
import TypedOptions.Proofs.OptionsFile.Lines
import TypedOptions.Proofs.Text.Pieces

/-!
# What a text means

Empty statements say nothing, and headings only put names before the keys
behind them.  What remains of a text are its inclusions, its assignments to
full names and its faults, and nothing else has an influence on the settings
that it gives.  For them it does not matter whether lines are cut at newlines
or as they are when a text is read.
-/

namespace TypedOptions

namespace Statement

/-- Statements below a heading as they are said without headings and without empty statements. -/
def plain (heading : String) : List Statement → List Statement
  | [] => []
  | .nothing :: rest => plain heading rest
  | .heading name :: rest => plain name rest
  | .assignment key value :: rest =>
      .assignment (OptionName.qualify heading key) value :: plain heading rest
  | .inclusion argument :: rest => .inclusion argument :: plain heading rest
  | .faulty fault :: rest => .faulty fault :: plain heading rest

theorem perform_plain (known : String → Option Settings) (source : OptionSource)
    (heading : String) (direct included : Settings) (statements : List Statement) :
    perform known source "" direct included (plain heading statements) =
      perform known source heading direct included statements := by
  induction statements generalizing heading direct included with
  | nil => rfl
  | cons statement rest ih => cases statement <;> simp [plain, perform, ih]

theorem plain_append_congr {statements others : List Statement}
    (hsame : ∀ heading, plain heading statements = plain heading others)
    (heading : String) (said : List Statement) :
    plain heading (said ++ statements) = plain heading (said ++ others) := by
  induction said generalizing heading with
  | nil => exact hsame heading
  | cons statement rest ih => cases statement <;> simp [plain, ih]

/-! ## Lines that agree -/

/-- The lines say the same, whatever stands before them. -/
def Agree (lines others : List (List Char)) : Prop :=
  ∀ begun? heading, plain heading (ofLines begun? lines) = plain heading (ofLines begun? others)

theorem Agree.trans {lines others more : List (List Char)} (hlines : Agree lines others)
    (hothers : Agree others more) : Agree lines more :=
  fun begun? heading => (hlines begun? heading).trans (hothers begun? heading)

theorem Agree.prepend {lines others : List (List Char)} (hsame : Agree lines others)
    (before : List (List Char)) : Agree (before ++ lines) (before ++ others) := by
  intro begun? heading
  obtain ⟨said, next?, -, hsaid⟩ := exists_ofLines_append begun? before
  rw [hsaid, hsaid]
  exact plain_append_congr (hsame next?) heading said

theorem ofLines_congr {lines others : List (List Char)}
    (hsame : lines.map Text.trim = others.map Text.trim) (begun? : Option (String × List Char)) :
    ofLines begun? lines = ofLines begun? others := by
  induction lines generalizing others begun? with
  | nil => rw [List.map_eq_nil_iff.1 hsame.symm]
  | cons line rest ih =>
      cases others with
      | nil => cases hsame
      | cons other more =>
          obtain ⟨hline, hrest⟩ := List.cons.inj hsame
          cases begun? with
          | some begun => simp only [ofLines, hline, ih hrest]
          | none => simp only [ofLines, hline, ih hrest]

theorem agree_empty_line : Agree [[]] [] := by
  intro begun? heading
  cases begun? with
  | none => rfl
  | some begun => simp [ofLines, withPart, splitContinuation]

theorem agree_of_trim_eq {line other : List Char} {rest more : List (List Char)}
    (hline : Text.trim line = Text.trim other) (hrest : Agree rest more) :
    Agree (line :: rest) (other :: more) := by
  have hfirst : Agree (line :: rest) (other :: rest) := by
    intro begun? heading
    have hsame : (line :: rest).map Text.trim = (other :: rest).map Text.trim := by
      rw [List.map_cons, List.map_cons, hline]
    rw [ofLines_congr hsame]
  exact hfirst.trans (hrest.prepend [other])

theorem agree_lines {pieces : List (List Char)} (hne : pieces ≠ [])
    (hpieces : ∀ piece ∈ pieces, '\n' ∉ piece) :
    Agree (Text.lines (['\n'].intercalate pieces)) pieces := by
  induction pieces with
  | nil => exact absurd rfl hne
  | cons piece rest ih =>
      obtain ⟨hpiece, hrest⟩ := List.forall_mem_cons.1 hpieces
      cases rest with
      | nil =>
          by_cases hempty : piece = []
          · rw [hempty]
            exact fun begun? heading => (agree_empty_line begun? heading).symm
          · rw [List.intercalate_singleton, Text.lines_of_not_mem_newline hpiece hempty]
            exact fun _ _ => rfl
      | cons next more =>
          obtain ⟨shown, hlines, htrim⟩ :=
            Text.exists_line_of_append_newline (['\n'].intercalate (next :: more)) hpiece
          rw [List.intercalate_cons_cons, List.append_assoc, List.singleton_append, hlines]
          exact agree_of_trim_eq htrim (ih (List.cons_ne_nil _ _) hrest)

end Statement

namespace OptionsFile

open Statement

/-- The lines of a text as they stand between newlines. -/
def physicalLines (content : String) : List (List Char) :=
  Text.splitAll '\n' content.toList

/-- The text of lines with these ends between them. -/
def joinLines (ending : List Char) (lines : List (List Char)) : String :=
  String.ofList (ending.intercalate lines)

def meaning (content : String) : List Statement :=
  plain "" (ofLines none (physicalLines content))

theorem plain_ofText (content : String) : plain "" (ofText content) = meaning content := by
  have hlines := agree_lines (Text.splitAll_ne_nil '\n' content.toList)
    (fun _ hpiece => Text.not_mem_of_mem_splitAll hpiece) none ""
  rwa [Text.intercalate_splitAll] at hlines

theorem meaning_joinLines {lines : List (List Char)} (hlines : ∀ line ∈ lines, '\n' ∉ line) :
    meaning (joinLines ['\n'] lines) = plain "" (ofLines none lines) := by
  cases lines with
  | nil => rfl
  | cons line rest =>
      rw [meaning, physicalLines, joinLines, String.toList_ofList,
        Text.splitAll_intercalate (List.cons_ne_nil _ _) hlines]

theorem toOption_readNested_eq_perform_meaning (fileSystem : FileSystem) (opened : List Location)
    (context : SourceContext) (content : String) :
    (readNested fileSystem opened context content).outcome.toOption =
      perform (included? fileSystem opened context) context.source "" ∅ ∅ (meaning content) := by
  rw [toOption_readNested, ← plain_ofText, perform_plain]

end OptionsFile

end TypedOptions
