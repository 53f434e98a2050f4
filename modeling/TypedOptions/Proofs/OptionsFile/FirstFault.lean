import TypedOptions.Proofs.OptionsFile.Nesting

/-!
# The first line that fails

A text that fails does so at one of its lines: the lines before it can be
read without it, and every text that begins with the same lines fails in the
same way, whatever stands behind them.  The error names this line, unless it
comes from the text of a file that the line includes.
-/

namespace TypedOptions

namespace Text

/-- The text of the first lines, with their ends. -/
def firstLines : Nat → List Char → List Char
  | 0, _ => []
  | _, [] => []
  | count + 1, c :: rest =>
      if c = '\n' then c :: firstLines count rest else c :: firstLines (count + 1) rest

theorem firstLines_succ_cons {c : Char} (count : Nat) (rest : List Char) (hc : c ≠ '\n') :
    firstLines (count + 1) (c :: rest) = c :: firstLines (count + 1) rest := by
  rw [firstLines, if_neg hc]

theorem isPrefix_firstLines (count : Nat) (text : List Char) : firstLines count text <+: text := by
  induction text generalizing count with
  | nil =>
      cases count with
      | zero => exact List.prefix_rfl
      | succ count => exact List.prefix_rfl
  | cons c rest ih =>
      cases count with
      | zero => exact List.nil_prefix
      | succ count =>
          rw [firstLines]
          split
          · exact List.cons_prefix_cons.2 ⟨rfl, ih count⟩
          · exact List.cons_prefix_cons.2 ⟨rfl, ih (count + 1)⟩

theorem eq_nil_of_lines_eq_nil {text : List Char} (hlines : lines text = []) : text = [] := by
  cases text using lines.induct with
  | case1 => rfl
  | case2 rest => simp at hlines
  | case3 rest => simp [lines] at hlines
  | case4 c rest hnewline hreturn hrest =>
      rw [lines, hrest] at hlines
      · cases hlines
      all_goals assumption
  | case5 c rest hnewline hreturn first more hrest =>
      rw [lines, hrest] at hlines
      · cases hlines
      all_goals assumption

theorem lines_firstLines (count : Nat) (text : List Char) :
    lines (firstLines count text) = (lines text).take count := by
  induction text using lines.induct generalizing count with
  | case1 => cases count <;> simp [firstLines]
  | case2 rest ih =>
      cases count with
      | zero => simp [firstLines]
      | succ count =>
          rw [firstLines, if_pos rfl, lines_newline, lines_newline, ih, List.take_succ_cons]
  | case3 rest ih =>
      cases count with
      | zero => simp [firstLines]
      | succ count =>
          rw [firstLines_succ_cons count _ (by decide), firstLines, if_pos rfl, lines, lines, ih,
            List.take_succ_cons]
  | case4 c rest hnewline hreturn hrest ih =>
      cases eq_nil_of_lines_eq_nil hrest
      cases count with
      | zero => simp [firstLines]
      | succ count =>
          rw [firstLines_succ_cons count [] hnewline]
          simp [firstLines, lines]
  | case5 c rest hnewline hreturn first more hrest ih =>
      cases count with
      | zero => simp [firstLines]
      | succ count =>
          have hshown := ih (count + 1)
          rw [hrest, List.take_succ_cons] at hshown
          have hfeed : ∀ behind, c = '\r' → firstLines (count + 1) rest ≠ '\n' :: behind := by
            intro behind hc hbegins
            obtain ⟨others, hothers⟩ := isPrefix_firstLines (count + 1) rest
            rw [hbegins] at hothers
            exact hreturn _ hc hothers.symm
          rw [firstLines_succ_cons count rest hnewline, lines, hshown, lines, hrest,
            List.take_succ_cons]
          all_goals assumption

end Text

/-- What the error tells of the place where it arose is the line of this source. -/
def OptionsFileError.Blames (source : String) (number : Nat) (line : List Char) :
    OptionsFileError → Prop
  | .line _ name place text => name = source ∧ place = number ∧ text = String.ofList line
  | .unreadableInclude _ name place _ => name = source ∧ place = number
  | .unreadableFile _ _ => False

theorem OpenText.Refuses.blames {fileSystem : FileSystem} {text : OpenText} {number : Nat}
    {line : List Char} {error : OptionsFileError}
    (hrefuses : text.Refuses fileSystem number line error) :
    error.Blames text.context.name number line := by
  cases hrefuses with
  | faulty fault hplain => exact ⟨rfl, rfl, rfl⟩
  | circular hcircular => exact ⟨rfl, rfl, rfl⟩
  | unreadable path cause => exact ⟨rfl, rfl⟩

namespace OptionsFile

variable {fileSystem : FileSystem} {directory? : Option Path} {source content : String}
variable {error : OptionsFileError}

/-- The numbered line is the first that fails: what stands before it can be read, and what stands
behind it has no influence. -/
structure FailsAt (fileSystem : FileSystem) (directory? : Option Path) (source content : String)
    (number : Nat) (error : OptionsFileError) : Prop where
  before : ∃ settings,
    (parse fileSystem (String.ofList (Text.firstLines (number - 1) content.toList)) directory?
      source).outcome = .ok settings
  behind : ∀ other,
    (Text.lines other.toList).take number = (Text.lines content.toList).take number →
      (parse fileSystem other directory? source).outcome = .error error

theorem outcome_parse (fileSystem : FileSystem) (directory? : Option Path)
    (source content : String) :
    (parse fileSystem content directory? source).outcome =
      Draft.settings <$>
        (readLines ⟨source, directory?⟩ (visitNested fileSystem [] ⟨source, directory?⟩)
          (.empty (.path ⟨source⟩)) 1 (Text.lines content.toList)).outcome := by
  rw [parse, readNested_eq_readText, outcome_readText]
  rfl

theorem failsAt_of_readLine {before after : List (List Char)} {raw : List Char} {reached : Draft}
    (hlines : Text.lines content.toList = before ++ raw :: after)
    (hbefore : (readLines ⟨source, directory?⟩ (visitNested fileSystem [] ⟨source, directory?⟩)
      (.empty (.path ⟨source⟩)) 1 before).outcome = .ok reached)
    (hraw : (readLine ⟨source, directory?⟩ (visitNested fileSystem [] ⟨source, directory?⟩)
      reached (1 + before.length) raw).outcome = .error error) :
    FailsAt fileSystem directory? source content (1 + before.length) error := by
  constructor
  · refine ⟨reached.settings, ?_⟩
    rw [outcome_parse, String.toList_ofList, Text.lines_firstLines, hlines,
      Nat.add_sub_cancel_left, List.take_left, hbefore]
    rfl
  · intro other hother
    have htake : (before ++ raw :: after).take (1 + before.length) = before ++ [raw] := by
      rw [Nat.add_comm, List.take_length_add_append]
      rfl
    have hsplit : Text.lines other.toList =
        before ++ raw :: (Text.lines other.toList).drop (1 + before.length) := by
      conv_lhs => rw [← List.take_append_drop (1 + before.length) (Text.lines other.toList)]
      rw [hother, hlines, htake, List.append_assoc, List.singleton_append]
    rw [outcome_parse, hsplit, outcome_readLines_of_failing hbefore hraw]
    rfl

/-- A text that fails does so at a line.  The error is that of a file that the line includes, or it
tells where this line stands and, but for files that cannot be read, what it says. -/
theorem parse_fails_at_line
    (hparse : (parse fileSystem content directory? source).outcome = .error error) :
    ∃ number line, 0 < number ∧ (Text.lines content.toList)[number - 1]? = some line ∧
      FailsAt fileSystem directory? source content number error ∧
      (error.Blames source number (Text.trim line) ∨
        OpenText.FailsWithin fileSystem ⟨[], ⟨source, directory?⟩, content⟩ number error) := by
  rw [outcome_parse, map_eq_error_iff] at hparse
  obtain ⟨before, raw, after, reached, hlines, hbefore, hraw⟩ := exists_failing_line hparse
  have hrefused := OpenText.refuses_or_failsWithin ⟨[], ⟨source, directory?⟩, content⟩ hlines
    hbefore hraw
  refine ⟨1 + before.length, raw, by omega, ?_, failsAt_of_readLine hlines hbefore hraw,
    hrefused.imp_left OpenText.Refuses.blames⟩
  rw [hlines, Nat.add_sub_cancel_left, List.getElem?_append_right (Nat.le_refl _), Nat.sub_self]
  rfl

namespace FaultSample

/-- The key of the seventh line is taken by the third one. -/
def text : String :=
  "x = 1\n[s]\ny = 2 \\\n# 3\ns.y = 4\n[]\n s.y = 5 \nz\n"

/-- The second line includes a file, the first line of which says nothing. -/
def includingText : String :=
  "x = 1\n#include part\nz\n"

def files : MemoryFiles :=
  MemoryFiles.empty.withFile ⟨"/c/part"⟩ "[s\n"

theorem parse_fails_at_line_sample :
    (error? (parse (.memory files) text (some ⟨"/c"⟩) "inline").outcome =
        some (.line .duplicateOption "inline" 7 "s.y = 5") ∧
      ∃ number line, (Text.lines text.toList)[number - 1]? = some line ∧
        FailsAt (.memory files) (some ⟨"/c"⟩) "inline" text number
          (.line .duplicateOption "inline" 7 "s.y = 5")) ∧
    error? (parse (.memory files) includingText (some ⟨"/c"⟩) "inline").outcome =
        some (.line .missingSeparator "/c/part" 1 "[s") ∧
      ∃ number, FailsAt (.memory files) (some ⟨"/c"⟩) "inline" includingText number
          (.line .missingSeparator "/c/part" 1 "[s") ∧
        OpenText.FailsWithin (.memory files) ⟨[], ⟨"inline", some ⟨"/c"⟩⟩, includingText⟩ number
          (.line .missingSeparator "/c/part" 1 "[s") := by
  have hown : error? (parse (.memory files) text (some ⟨"/c"⟩) "inline").outcome =
      some (.line .duplicateOption "inline" 7 "s.y = 5") := by
    decide +kernel
  have hnested : error? (parse (.memory files) includingText (some ⟨"/c"⟩) "inline").outcome =
      some (.line .missingSeparator "/c/part" 1 "[s") := by
    decide +kernel
  obtain ⟨number, line, -, hline, hfails, -⟩ := parse_fails_at_line (error?_eq_some_iff.1 hown)
  obtain ⟨including, _, -, -, hincluding, hblamed⟩ :=
    parse_fails_at_line (error?_eq_some_iff.1 hnested)
  refine ⟨⟨hown, number, line, hline, hfails⟩, hnested, including, hincluding, ?_⟩
  rcases hblamed with ⟨hname, -, -⟩ | hwithin
  · exact absurd hname (by decide)
  · exact hwithin

end FaultSample

end OptionsFile

end TypedOptions
