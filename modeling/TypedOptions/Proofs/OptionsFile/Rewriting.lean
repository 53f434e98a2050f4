import Mathlib.Logic.Relation
import TypedOptions.Proofs.OptionsFile.Meaning
import TypedOptions.Proofs.OptionsFile.Merging
import TypedOptions.Proofs.OptionsFile.Values

/-!
# Texts that are written differently

Blank lines and comments, white space around lines, carriage returns before
newlines and headings are only ways of writing.  A text that is written
without them gives the same settings.  Which lines are headings or comments
depends on the lines before them, so the two texts are read side by side: while
the one is below a heading, the other has it in front of its keys.
-/

namespace TypedOptions

namespace Statement

/-- A blank line or a comment, if it does not continue a value. -/
def IsRemark (line : List Char) : Prop :=
  Text.trim line = [] ∨ ['#', ' '] <+: Text.trim line ∨ ['/', '/'] <+: Text.trim line

theorem read_of_isRemark {line : List Char} (hremark : IsRemark line) :
    read (Text.trim line) = .nothing := by
  rcases hremark with hblank | ⟨rest, hhash⟩ | ⟨rest, hslashes⟩
  · rw [hblank, read_nil]
  · rw [← hhash]
    rfl
  · rw [← hslashes]
    rfl

/-! ## Keys in full -/

/-- The line of an assignment below a heading, with the heading in front of the key. -/
def below (heading : String) (line : List Char) : List Char :=
  if heading = "" then line else heading.toList ++ '.' :: Text.trimStart line

/-- Lines without headings, with keys in full; `isOpen` tells whether a value goes on. -/
def withoutHeadings (heading : String) (isOpen : Bool) : List (List Char) → List (List Char)
  | [] => []
  | line :: rest =>
      if isOpen then line :: withoutHeadings heading (leavesOpen true line) rest
      else
        match read (Text.trim line) with
        | .heading name => withoutHeadings name false rest
        | .assignment _ _ =>
            below heading line :: withoutHeadings heading (leavesOpen false line) rest
        | _ => line :: withoutHeadings heading false rest

theorem trim_append_point {heading : List Char} (hname : isName heading = true)
    (text : List Char) :
    Text.trim (heading ++ '.' :: text) = heading ++ '.' :: Text.trimEnd text := by
  simpa using trim_append_of_isName (c := '.') hname [] text (by decide)

theorem splitFirst_append_point {heading line before after : List Char}
    (hname : isName heading = true) (hsplit : Text.splitFirst '=' line = some (before, after)) :
    Text.splitFirst '=' (heading ++ '.' :: line) = some (heading ++ '.' :: before, after) := by
  obtain ⟨rfl, hbefore⟩ := Text.splitFirst_eq_some hsplit
  have hnone : '=' ∉ heading ++ '.' :: before := by
    have hheading := not_mem_of_isName (c := '=') hname (by decide) (by decide)
    simp [hheading, hbefore]
  simpa using Text.splitFirst_append after hnone

theorem read_below {heading key : String} {line value : List Char}
    (hheading : heading = "" ∨ isName heading.toList = true)
    (hread : read (Text.trim line) = .assignment key value) :
    read (Text.trim (below heading line)) =
      .assignment (OptionName.qualify heading key) value := by
  by_cases hempty : heading = ""
  · rw [below, if_pos hempty, hread, hempty, OptionName.qualify_empty]
  · have hname := hheading.resolve_left hempty
    obtain ⟨before, after, hsplit, hlegal, rfl, rfl⟩ := read_eq_assignment hread
    have hline : Text.trim (below heading line) = heading.toList ++ '.' :: Text.trim line := by
      rw [below, if_neg hempty, trim_append_point hname, Text.trim]
    have hkey : Text.trim (heading.toList ++ '.' :: before) =
        (OptionName.qualify heading (String.ofList (Text.trim before))).toList := by
      have hstart : Text.StartsPlain before := (Text.startsPlain_trim line).of_isPrefix
        ⟨'=' :: after, (Text.splitFirst_eq_some hsplit).1.symm⟩
      rw [trim_append_point hname, OptionName.qualify_of_ne_empty _ hempty,
        Text.trim_of_startsPlain hstart]
      simp
    have hfull := splitFirst_append_point hname hsplit
    rw [← hline] at hfull
    rw [read_of_splitFirst (Text.startsPlain_trim _) hfull, hkey, String.ofList_toList]
    rw [hkey]
    exact isName_qualify hheading (by rwa [String.toList_ofList])

theorem newline_not_mem_below {heading : String} {line : List Char}
    (hheading : heading = "" ∨ isName heading.toList = true) (hline : '\n' ∉ line) :
    '\n' ∉ below heading line := by
  unfold below
  split
  · exact hline
  · rename_i hne
    have hname := not_mem_of_isName (c := '\n') (hheading.resolve_left hne) (by decide) (by decide)
    have hstart : '\n' ∉ Text.trimStart line := fun hmem =>
      hline ((List.dropWhile_suffix _).subset hmem)
    simp [hname, hstart]

theorem newline_not_mem_withoutHeadings {heading : String} {isOpen : Bool}
    {lines : List (List Char)} (hheading : heading = "" ∨ isName heading.toList = true)
    (hlines : ∀ line ∈ lines, '\n' ∉ line) :
    ∀ line ∈ withoutHeadings heading isOpen lines, '\n' ∉ line := by
  induction lines generalizing heading isOpen with
  | nil => exact hlines
  | cons line rest ih =>
      obtain ⟨hline, hrest⟩ := List.forall_mem_cons.1 hlines
      rw [withoutHeadings]
      split
      · exact List.forall_mem_cons.2 ⟨hline, ih hheading hrest⟩
      · split
        · rename_i name hread
          exact ih (read_eq_heading hread) hrest
        · exact List.forall_mem_cons.2 ⟨newline_not_mem_below hheading hline, ih hheading hrest⟩
        · exact List.forall_mem_cons.2 ⟨hline, ih hheading hrest⟩

theorem plain_withPart {heading key : String} {value part : List Char}
    {full following : Option (String × List Char) → List Statement}
    (hfollowing : ∀ next?, next?.isSome = (splitContinuation part).2 →
      plain "" (full (next?.map (Prod.map (OptionName.qualify heading) id))) =
        plain heading (following next?)) :
    plain "" (withPart (OptionName.qualify heading key) value part full) =
      plain heading (withPart key value part following) := by
  unfold withPart
  rcases hsplit : splitContinuation part with ⟨cut, goesOn⟩
  rw [hsplit] at hfollowing
  cases goesOn with
  | true => exact hfollowing (some (key, value ++ cut)) rfl
  | false =>
      simp only [plain, OptionName.qualify_empty]
      rw [← hfollowing none rfl, Option.map_none]

/-- The lines with headings and those without them are read side by side. -/
theorem plain_withoutHeadings {heading : String} (begun? : Option (String × List Char))
    (lines : List (List Char)) (hheading : heading = "" ∨ isName heading.toList = true) :
    plain "" (ofLines (begun?.map (Prod.map (OptionName.qualify heading) id))
      (withoutHeadings heading begun?.isSome lines)) = plain heading (ofLines begun? lines) := by
  induction lines generalizing heading begun? with
  | nil => cases begun? <;> simp [withoutHeadings, ofLines, plain]
  | cons line rest ih =>
      cases begun? with
      | some begun =>
          obtain ⟨key, value⟩ := begun
          simp only [withoutHeadings, Option.isSome_some, if_true, Option.map_some, Prod.map_apply,
            id_eq, ofLines]
          refine plain_withPart fun next? hnext => ?_
          have hopen : leavesOpen true line = next?.isSome := hnext.symm
          rw [hopen]
          exact ih next? hheading
      | none =>
          have hnone := ih none hheading
          simp only [Option.map_none, Option.isSome_none] at hnone ⊢
          cases hread : read (Text.trim line) with
          | heading name =>
              simp only [withoutHeadings, Bool.false_eq_true, if_false, ofLines, hread, plain]
              exact ih none (read_eq_heading hread)
          | assignment key value =>
              simp only [withoutHeadings, Bool.false_eq_true, if_false, ofLines, hread,
                read_below hheading hread]
              refine plain_withPart fun next? hnext => ?_
              have hopen : leavesOpen false line = next?.isSome := by
                simp [leavesOpen, hread, hnext]
              rw [hopen]
              exact ih next? hheading
          | _ =>
              simp only [withoutHeadings, Bool.false_eq_true, if_false, ofLines, hread, plain,
                hnone]

end Statement

namespace OptionsFile

open Statement

/-! ## Ways of writing -/

/-- A text is written differently in one respect. -/
inductive Rewriting : String → String → Prop where
  /-- A blank line or a comment is left out, unless it continues a value. -/
  | remark (content : String) (before : List (List Char)) (line : List Char)
      (after : List (List Char)) (hlines : physicalLines content = before ++ line :: after)
      (hclosed : leftOpen false before = false) (hremark : IsRemark line) :
      Rewriting content (joinLines ['\n'] (before ++ after))
  /-- Lines stand between other white space. -/
  | edges (content other : String)
      (hsame : (physicalLines content).map Text.trim = (physicalLines other).map Text.trim) :
      Rewriting content other
  /-- All newlines have carriage returns before them. -/
  | returns (content : String) :
      Rewriting content (joinLines ['\r', '\n'] (physicalLines content))
  /-- All headings are left out, and keys are written with the section that they stand in. -/
  | headings (content : String) :
      Rewriting content (joinLines ['\n'] (withoutHeadings "" false (physicalLines content)))

/-- The other text comes from the first one by any number of rewritings. -/
def Rewritten : String → String → Prop :=
  Relation.ReflTransGen Rewriting

/-- Every file has its text, or that text as it is written differently. -/
def RewrittenFiles (files others : MemoryFiles) : Prop :=
  ∀ location content, files.fileAt? location = some content →
    ∃ other, others.fileAt? location = some other ∧ Rewritten content other

theorem newline_not_mem_physicalLines (content : String) :
    ∀ line ∈ physicalLines content, '\n' ∉ line :=
  fun _ hline => Text.not_mem_of_mem_splitAll hline

theorem trim_splitAll_returns {lines : List (List Char)} (hne : lines ≠ [])
    (hlines : ∀ line ∈ lines, '\n' ∉ line) :
    (Text.splitAll '\n' (['\r', '\n'].intercalate lines)).map Text.trim =
      lines.map Text.trim := by
  induction lines with
  | nil => exact absurd rfl hne
  | cons line rest ih =>
      obtain ⟨hline, hrest⟩ := List.forall_mem_cons.1 hlines
      cases rest with
      | nil => simp [Text.splitAll_of_not_mem hline]
      | cons next more =>
          have hreturn : '\n' ∉ line ++ ['\r'] := by simp [hline]
          have hjoined : ['\r', '\n'].intercalate (line :: next :: more) =
              (line ++ ['\r']) ++ '\n' :: ['\r', '\n'].intercalate (next :: more) := by
            simp [List.intercalate_cons_cons]
          rw [hjoined, Text.splitAll_append_separator, Text.splitAll_of_not_mem hreturn,
            List.map_append, ih (List.cons_ne_nil _ _) hrest, List.map_singleton,
            Text.trim_append_of_isBlank line (by decide)]
          rfl

theorem meaning_eq_of_trim_eq {content other : String}
    (hsame : (physicalLines content).map Text.trim = (physicalLines other).map Text.trim) :
    meaning content = meaning other := by
  rw [meaning, meaning, ofLines_congr hsame]

theorem Rewriting.meaning_eq {content other : String} (hrewriting : Rewriting content other) :
    meaning content = meaning other := by
  cases hrewriting with
  | remark before line after hlines hclosed hremark =>
      have hunbroken : ∀ line ∈ before ++ after, '\n' ∉ line := by
        intro other hother
        apply newline_not_mem_physicalLines content
        rw [hlines]
        rcases List.mem_append.1 hother with hbefore | hafter
        · exact List.mem_append_left _ hbefore
        · exact List.mem_append_right _ (List.mem_cons_of_mem _ hafter)
      have hskipped : ∀ heading, plain heading (ofLines none (line :: after)) =
          plain heading (ofLines none after) := by
        intro heading
        simp only [ofLines, read_of_isRemark hremark, plain]
      obtain ⟨said, hsaid⟩ := exists_ofLines_of_leftOpen hclosed
      rw [meaning_joinLines hunbroken, meaning, hlines, hsaid, hsaid]
      exact plain_append_congr hskipped "" said
  | edges _ hsame => exact meaning_eq_of_trim_eq hsame
  | returns =>
      apply meaning_eq_of_trim_eq
      rw [joinLines, physicalLines, physicalLines, String.toList_ofList]
      exact (trim_splitAll_returns (Text.splitAll_ne_nil _ _)
        (newline_not_mem_physicalLines content)).symm
  | headings =>
      rw [meaning_joinLines (newline_not_mem_withoutHeadings (Or.inl rfl)
        (newline_not_mem_physicalLines content))]
      exact (plain_withoutHeadings none _ (Or.inl rfl)).symm

theorem Rewritten.meaning_eq {content other : String} (hrewritten : Rewritten content other) :
    meaning content = meaning other := by
  induction hrewritten with
  | refl => rfl
  | tail _ hrewriting ih => exact ih.trans hrewriting.meaning_eq

theorem parse_outcome_congr {fileSystem : FileSystem} {content other source : String}
    {directory? : Option Path} {settings : Settings} (hsame : meaning content = meaning other)
    (hparse : (parse fileSystem content directory? source).outcome = .ok settings) :
    (parse fileSystem other directory? source).outcome = .ok settings := by
  unfold parse at hparse ⊢
  rw [← toOption_eq_some_iff, toOption_readNested_eq_perform_meaning] at hparse ⊢
  rwa [← hsame]

theorem Rewritten.perform_eq {content other : String} (hrewritten : Rewritten content other)
    (known : String → Option Settings) (source : OptionSource) :
    perform known source "" ∅ ∅ (ofText content) =
      perform known source "" ∅ ∅ (ofText other) := by
  rw [← perform_plain, plain_ofText, hrewritten.meaning_eq, ← plain_ofText, perform_plain]

theorem opens_of_rewrittenFiles {files others : MemoryFiles}
    (hfiles : RewrittenFiles files others) {opened : List Location} {path : Path}
    {location : Location} {content : String}
    (hopen : Opens (.memory files) opened path location content) :
    ∃ other, Opens (.memory others) opened path location other ∧ Rewritten content other := by
  obtain ⟨rfl, hclosed, hfile⟩ := opens_memory_iff.1 hopen
  obtain ⟨other, hother, hrewritten⟩ := hfiles _ _ hfile
  exact ⟨other, opens_memory_iff.2 ⟨rfl, hclosed, hother⟩, hrewritten⟩

theorem parseFile_of_rewrittenFiles {files others : MemoryFiles}
    (hfiles : RewrittenFiles files others) {path : Path} {settings : Settings}
    (hparse : (parseFile (.memory files) path).outcome = .ok settings) :
    (parseFile (.memory others) path).outcome = .ok settings := by
  obtain ⟨location, content, hopen, hread⟩ := parseFile_outcome_eq_ok_iff.1 hparse
  obtain ⟨other, hother, hrewritten⟩ := opens_of_rewrittenFiles hfiles hopen
  refine parseFile_outcome_eq_ok_iff.2 ⟨location, other, hother, ?_⟩
  exact readNested_of_alike (fun known source _ _ hsame => hsame.perform_eq known source)
    (fun _ _ _ hinner => opens_of_rewrittenFiles hfiles hinner) hrewritten hread

/-- A text that is written differently gives the same settings, whatever it includes, and so do
files if they and those that they include are written differently. -/
theorem rewritten_parsed_alike (settings : Settings) :
    (∀ fileSystem content other directory? source, Rewritten content other →
      ((parse fileSystem content directory? source).outcome = .ok settings ↔
        (parse fileSystem other directory? source).outcome = .ok settings)) ∧
    ∀ files others, RewrittenFiles files others → ∀ path,
      (parseFile (.memory files) path).outcome = .ok settings →
        (parseFile (.memory others) path).outcome = .ok settings := by
  constructor
  · intro fileSystem content other directory? source hrewritten
    have hsame := hrewritten.meaning_eq
    exact ⟨parse_outcome_congr hsame, parse_outcome_congr hsame.symm⟩
  · intro files others hfiles path hparse
    exact parseFile_of_rewrittenFiles hfiles hparse

namespace RewritingSample

def text : String :=
  "x = 1\n# remark\n[s]\ny = 2 \\\n# kept\n[t]\nx = 4\n#include part\n"

def withoutRemark : String :=
  "x = 1\n[s]\ny = 2 \\\n# kept\n[t]\nx = 4\n#include part\n"

def inFull : String :=
  "x = 1\ns.y = 2 \\\n# kept\nt.x = 4\n#include part\n"

def withReturns : String :=
  "x = 1\r\ns.y = 2 \\\r\n# kept\r\nt.x = 4\r\n#include part\r\n"

def indented : String :=
  "\tx = 1\n  s.y = 2 \\ \n  # kept\nt.x = 4\n #include part\n"

theorem rewritten_text : Rewritten text indented := by
  have hremark : Rewriting text withoutRemark :=
    .remark text ["x = 1".toList] "# remark".toList
      ["[s]".toList, "y = 2 \\".toList, "# kept".toList, "[t]".toList, "x = 4".toList,
        "#include part".toList, []]
      (by decide +kernel) (by decide +kernel) (Or.inr (Or.inl ⟨"remark".toList, by decide⟩))
  have hheadings : Rewriting withoutRemark inFull := .headings withoutRemark
  have hreturns : Rewriting inFull withReturns := .returns inFull
  have hedges : Rewriting withReturns indented := .edges withReturns indented (by decide +kernel)
  exact .head hremark (.head hheadings (.head hreturns (.single hedges)))

def files : MemoryFiles :=
  (MemoryFiles.empty.withFile ⟨"/c/main"⟩ text).withFile ⟨"/c/part"⟩ "z = 5\n"

def others : MemoryFiles :=
  (MemoryFiles.empty.withFile ⟨"/c/main"⟩ indented).withFile ⟨"/c/part"⟩ "z = 5\r\n"

theorem rewrittenFiles : RewrittenFiles files others := by
  intro location content hcontent
  simp only [files, MemoryFiles.fileAt?_withFile] at hcontent
  simp only [others, MemoryFiles.fileAt?_withFile]
  split at hcontent
  · cases hcontent
    exact ⟨_, if_pos ‹_›, .single (.returns _)⟩
  · rw [if_neg ‹_›]
    split at hcontent
    · cases hcontent
      exact ⟨_, if_pos ‹_›, rewritten_text⟩
    · cases hcontent

theorem rewritten_parsed_alike_sample :
    (Rewritten text indented ∧ ∃ settings,
      (parse (.memory files) text (some ⟨"/c"⟩) "inline").outcome = .ok settings ∧
      settings.value? "s.y" = some "2 # kept" ∧
      (parse (.memory files) indented (some ⟨"/c"⟩) "inline").outcome = .ok settings) ∧
    RewrittenFiles files others ∧ ∃ settings,
      (parseFile (.memory files) ⟨"/c/main"⟩).outcome = .ok settings ∧
      settings.value? "t.x" = some "4" ∧
      (parseFile (.memory others) ⟨"/c/main"⟩).outcome = .ok settings := by
  have htext : (parse (.memory files) text (some ⟨"/c"⟩)
      "inline").outcome.toOption.bind (·.value? "s.y") = some "2 # kept" := by
    decide +kernel
  have hfile : (parseFile (.memory files) ⟨"/c/main"⟩).outcome.toOption.bind
      (·.value? "t.x") = some "4" := by
    decide +kernel
  obtain ⟨settings, hparse, hvalue⟩ := Option.bind_eq_some_iff.1 htext
  obtain ⟨loaded, hload, hloaded⟩ := Option.bind_eq_some_iff.1 hfile
  rw [toOption_eq_some_iff] at hparse hload
  have hrewritten := ((rewritten_parsed_alike settings).1 (.memory files) _ _ (some ⟨"/c"⟩) "inline"
    rewritten_text).1 hparse
  have hreloaded := (rewritten_parsed_alike loaded).2 _ _ rewrittenFiles _ hload
  exact ⟨⟨rewritten_text, settings, hparse, hvalue, hrewritten⟩, rewrittenFiles, loaded, hload,
    hloaded, hreloaded⟩

end RewritingSample

end OptionsFile

end TypedOptions
