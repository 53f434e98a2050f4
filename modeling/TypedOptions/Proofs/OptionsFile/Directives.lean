import TypedOptions.Proofs.OptionsFile.Keys
import TypedOptions.Proofs.Text.Trimming

/-!
# Directives

A line that begins with a hash sign and is no comment is a directive.  The
parser compares the beginning of the line with the mark of inclusions and takes
all that follows as the name of a file.  So a longer word that begins with the
mark, which is no known directive, is an inclusion as well.
-/

namespace TypedOptions

namespace Statement

/-- A trimmed line that is neither a comment nor the beginning of something else. -/
def IsDirective (line : List Char) : Prop :=
  ∃ rest, line = '#' :: rest ∧ rest.head? ≠ some ' '

/-- The text up to the first white space. -/
def firstWord (line : List Char) : List Char :=
  line.takeWhile fun c => !Text.isBlank c

/-- What a directive says if its whole first word has to be the mark. -/
def readByWord (line : List Char) : Statement :=
  if firstWord line = includeMark then
    let argument := Text.trim (line.drop (firstWord line).length)
    if argument = [] then .faulty .missingInclude else .inclusion (String.ofList argument)
  else .faulty .illegalDirective

theorem read_of_isDirective {line : List Char} (hdirective : IsDirective line) :
    read line = ofDirective line := by
  obtain ⟨rest, rfl, hplain⟩ := hdirective
  cases rest with
  | nil => rfl
  | cons c more =>
      have hc : c ≠ ' ' := by
        rintro rfl
        exact hplain rfl
      simp [read, hc]

theorem isDirective_includeMark (rest : List Char) : IsDirective (includeMark ++ rest) :=
  ⟨_, rfl, by simp⟩

theorem read_of_not_marked {line : List Char} (hdirective : IsDirective line)
    (hmark : ¬includeMark <+: line) : read line = .faulty .illegalDirective := by
  rw [read_of_isDirective hdirective, ofDirective, if_neg]
  rwa [List.isPrefixOf_iff_prefix]

theorem read_includeMark (rest : List Char) :
    read (includeMark ++ rest) =
      if Text.trim rest = [] then .faulty .missingInclude
      else .inclusion (String.ofList (Text.trim rest)) := by
  have hmark : includeMark.isPrefixOf (includeMark ++ rest) = true :=
    List.isPrefixOf_iff_prefix.2 (List.prefix_append _ _)
  rw [read_of_isDirective (isDirective_includeMark rest), ofDirective, if_pos hmark, List.drop_left]

theorem firstWord_includeMark (rest : List Char) :
    firstWord (includeMark ++ rest) = includeMark ++ firstWord rest :=
  List.takeWhile_append_of_pos (List.all_eq_true.1 (by decide))

theorem isPrefix_of_firstWord {line : List Char} (hword : firstWord line = includeMark) :
    includeMark <+: line :=
  hword ▸ List.takeWhile_prefix _

theorem trim_ne_nil_of_firstWord {text : List Char} (hword : firstWord text ≠ []) :
    Text.trim text ≠ [] := by
  cases text with
  | nil => exact absurd rfl hword
  | cons c rest =>
      have hc : Text.isBlank c = false := by
        rw [← Bool.not_eq_true]
        intro hblank
        exact hword (by simp [firstWord, hblank])
      rw [Text.trim_of_startsPlain (Text.startsPlain_cons_iff.2 hc),
        Text.trimEnd_cons_of_not_isBlank rest hc]
      exact List.cons_ne_nil _ _

/-- The mark may be the beginning of a longer word; all other directives are read by their words. -/
theorem read_eq_readByWord_iff {line : List Char} (hdirective : IsDirective line) :
    read line = readByWord line ↔ (includeMark <+: line → firstWord line = includeMark) := by
  by_cases hmark : includeMark <+: line
  · obtain ⟨rest, rfl⟩ := hmark
    rw [read_includeMark, readByWord, firstWord_includeMark]
    by_cases hword : firstWord rest = []
    · simp [hword]
    · simp [hword, trim_ne_nil_of_firstWord hword]
  · have hword : firstWord line ≠ includeMark := fun heq => hmark (isPrefix_of_firstWord heq)
    rw [read_of_not_marked hdirective hmark, readByWord, if_neg hword]
    simp [hmark]

end Statement

namespace OpenText

open Statement OptionsFile

variable {fileSystem : FileSystem} {text : OpenText} {reached : Draft}
variable {before after : List (List Char)} {raw : List Char}

/-- The text fails at the line, whatever inclusions would lead to. -/
structure RefusesUnseen (fileSystem : FileSystem) (text : OpenText) (reached : Draft) (number : Nat)
    (raw : List Char) (fault : LineFault) : Prop where
  unseen : ∀ visit, readLine text.context visit reached number raw =
    refuse text.context fault number (Text.trim raw)
  fails : (text.read fileSystem).outcome =
    .error (.line fault text.context.name number (String.ofList (Text.trim raw)))

/-- The line is an inclusion of the file that the argument names, and of no other. -/
structure LooksUp (fileSystem : FileSystem) (text : OpenText) (before : List (List Char))
    (raw : List Char) (after : List (List Char)) (reached : Draft) (argument : String) : Prop where
  visits : ∀ visit, readLine text.context visit reached (1 + before.length) raw = do
    let nested ← visit argument (1 + before.length) (Text.trim raw)
    pure { reached with included := reached.included.extend nested }
  missing : ∀ cause, fileSystem.locate (includePath text.context argument) = .error cause →
    (text.read fileSystem).outcome = .error (.unreadableInclude (includePath text.context argument)
      text.context.name (1 + before.length) cause)
  found : ∀ location content nested,
    Opens fileSystem text.opened (includePath text.context argument) location content →
      ((text.inside (includePath text.context argument) location content).read
        fileSystem).outcome = .ok nested →
      text.Arrives fileSystem (before ++ [raw]) after
        { reached with included := reached.included.extend nested }

theorem outcome_visit_of_opens {argument : String} {location : Location} {content : String}
    (hopens : Opens fileSystem text.opened (includePath text.context argument) location content)
    (number : Nat) (line : List Char) :
    (text.visit fileSystem (read fileSystem) argument number line).outcome =
      ((text.inside (includePath text.context argument) location content).read
        fileSystem).outcome := by
  obtain ⟨hlocate, hclosed, hcontent⟩ := hopens
  simp only [visit, hlocate, List.contains_iff_mem, hclosed, if_false, hcontent,
    Logged.outcome_bind]
  rfl

theorem refusesUnseen_of_faulty {fault : LineFault}
    (harrives : text.Arrives fileSystem before (raw :: after) reached)
    (hopen : reached.pending? = none)
    (hread : Statement.read (Text.trim raw) = .faulty fault) :
    text.RefusesUnseen fileSystem reached (1 + before.length) raw fault := by
  have hunseen : ∀ visit, readLine text.context visit reached (1 + before.length) raw =
      refuse text.context fault (1 + before.length) (Text.trim raw) := by
    intro visit
    rw [readLine_of_pending_none hopen, execute, hread]
  refine ⟨hunseen, harrives.outcome_read_of_failing ?_⟩
  rw [hunseen]
  rfl

theorem looksUp_of_inclusion {argument : String}
    (harrives : text.Arrives fileSystem before (raw :: after) reached)
    (hopen : reached.pending? = none)
    (hread : Statement.read (Text.trim raw) = .inclusion argument) :
    text.LooksUp fileSystem before raw after reached argument := by
  have hvisits : ∀ visit, readLine text.context visit reached (1 + before.length) raw =
      visit argument (1 + before.length) (Text.trim raw) >>= fun nested =>
        pure { reached with included := reached.included.extend nested } := by
    intro visit
    rw [readLine_of_pending_none hopen, execute, hread]
  refine ⟨hvisits, fun cause hcause => harrives.outcome_read_of_failing ?_,
    fun location content nested hopens hnested => ⟨?_, ?_⟩⟩
  · rw [hvisits, outcome_bind_pure_eq_error_iff, visit, hcause]
    rfl
  · rw [harrives.lines_eq, List.append_assoc, List.singleton_append]
  · have hvisit := outcome_visit_of_opens hopens (1 + before.length) (Text.trim raw)
    rw [hnested] at hvisit
    rw [outcome_readLines_append, harrives.outcome_eq]
    change (readLines _ _ _ _ _).outcome = _
    rw [readLines, hvisits, Logged.outcome_bind, Logged.outcome_bind, hvisit]
    rfl

/-- A directive that does not begin with the mark is refused, and one that consists of the mark
misses its argument, without a look at any file.  All others include the file that the text behind
the mark names.  This is what the first word of the line says, unless the mark is only the beginning
of the word. -/
theorem directives_read_by_beginning
    (harrives : text.Arrives fileSystem before (raw :: after) reached)
    (hopen : reached.pending? = none) (hdirective : IsDirective (Text.trim raw)) :
    (¬includeMark <+: Text.trim raw →
      text.RefusesUnseen fileSystem reached (1 + before.length) raw .illegalDirective) ∧
    (∀ rest, Text.trim raw = includeMark ++ rest →
      (Text.trim rest = [] →
        text.RefusesUnseen fileSystem reached (1 + before.length) raw .missingInclude) ∧
      (Text.trim rest ≠ [] →
        text.LooksUp fileSystem before raw after reached (String.ofList (Text.trim rest)))) ∧
    (Statement.read (Text.trim raw) = readByWord (Text.trim raw) ↔
      (includeMark <+: Text.trim raw → firstWord (Text.trim raw) = includeMark)) := by
  refine ⟨fun hmark => ?_, fun rest hrest => ⟨fun hnone => ?_, fun hsome => ?_⟩,
    read_eq_readByWord_iff hdirective⟩
  · exact refusesUnseen_of_faulty harrives hopen (read_of_not_marked hdirective hmark)
  · exact refusesUnseen_of_faulty harrives hopen (by rw [hrest, read_includeMark, if_pos hnone])
  · exact looksUp_of_inclusion harrives hopen (by rw [hrest, read_includeMark, if_neg hsome])

namespace DirectivesSample

def files : MemoryFiles :=
  MemoryFiles.empty.withFile ⟨"/c/foo"⟩ "x = 1\n"

def lone (line : String) : OpenText :=
  ⟨[], ⟨"inline", some ⟨"/c"⟩⟩, line⟩

def first : Draft :=
  .empty (.path ⟨"inline"⟩)

theorem arrives_lone {line : String} (hline : Text.lines line.toList = [line.toList]) :
    (lone line).Arrives (.memory files) [] [line.toList] first :=
  ⟨hline, rfl⟩

theorem directives_read_by_beginning_sample :
    ((lone "#define foo").read (.memory files)).outcome =
        .error (.line .illegalDirective "inline" 1 "#define foo") ∧
      ((lone "#include ").read (.memory files)).outcome =
        .error (.line .missingInclude "inline" 1 "#include") ∧
      (lone "#include foo").LooksUp (.memory files) [] "#include foo".toList [] first "foo" ∧
      (lone "#includefoo").LooksUp (.memory files) [] "#includefoo".toList [] first "foo" := by
  have hdefine := directives_read_by_beginning
    (arrives_lone (by decide : Text.lines "#define foo".toList = ["#define foo".toList])) rfl
    ⟨"define foo".toList, by decide, by decide⟩
  have hinclude : ∀ line rest : String, Text.lines line.toList = [line.toList] →
      Text.trim line.toList = includeMark ++ rest.toList → _ := fun line rest hline hrest =>
    (directives_read_by_beginning (arrives_lone hline) rfl
      (hrest ▸ isDirective_includeMark _)).2.1 rest.toList hrest
  refine ⟨(hdefine.1 (by decide)).fails, ?_, ?_, ?_⟩
  · exact ((hinclude "#include " "" (by decide) (by decide)).1 (by decide)).fails
  · exact (hinclude "#include foo" " foo" (by decide) (by decide)).2 (by decide)
  · exact (hinclude "#includefoo" "foo" (by decide) (by decide)).2 (by decide)

/-- The word is none that is known, but a file is read. -/
theorem longer_word_includes :
    IsDirective "#includefoo".toList ∧
      firstWord "#includefoo".toList = "#includefoo".toList ∧
      readByWord "#includefoo".toList = .faulty .illegalDirective ∧
      ∃ result, ((lone "#includefoo").read (.memory files)).outcome = .ok result ∧
        result.value? "x" = some "1" := by
  refine ⟨⟨"includefoo".toList, by decide, by decide⟩, by decide, by decide, ?_⟩
  have hread : ((lone "#includefoo").read (.memory files)).outcome.toOption.isSome = true := by
    decide +kernel
  exact ⟨_, eq_ok_getD hread ∅, by decide +kernel⟩

end DirectivesSample

end OpenText

end TypedOptions
