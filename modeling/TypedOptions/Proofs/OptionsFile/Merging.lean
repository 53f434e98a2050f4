import TypedOptions.Proofs.OptionsFile.Inclusion

/-!
# Merging of included files

What a text says about a key is what it assigns to the key itself, and
otherwise what the last of the files that it includes says about the key when
that file is read on its own.  Where the inclusions stand in the text has no
influence.
-/

namespace TypedOptions

namespace OptionsFile

open Statement

/-- The paths that the inclusions of a text name, in their order. -/
def includedPaths (context : SourceContext) (content : String) : List Path :=
  (inclusions (ofText content)).map (includePath context)

def directValue? (content key : String) : Option String :=
  (assignments "" (ofText content)).lookup key

/-- The texts have the same inclusions and otherwise the same statements, each in the same order,
but the inclusions may stand elsewhere, also in other sections. -/
def Rearranged (content other : String) : Prop :=
  inclusions (ofText content) = inclusions (ofText other) ∧
    own (ofText content) = own (ofText other)

/-- The settings are those of the text, merged with what the included files say on their own. -/
structure Merges (fileSystem : FileSystem) (context : SourceContext) (content : String)
    (settings : Settings) : Prop where
  values : ∃ results,
    List.Forall₂ (fun path result => (parseFile fileSystem path).outcome = .ok result)
      (includedPaths context content) results ∧
    ∀ key, settings.value? key =
      (directValue? content key).or
        (results.reverse.findSome? fun result => result.value? key)
  sources : ∀ key, settings.source? key =
    (settings.value? key).map fun _ => .path ⟨context.name⟩

theorem parsed_of_included {fileSystem : FileSystem} {opened : List Location}
    {context : SourceContext} {arguments : List String} {nested : List Settings}
    (hnested : List.Forall₂
      (fun argument settings => included? fileSystem opened context argument = some settings)
      arguments nested) :
    List.Forall₂ (fun path result => (parseFile fileSystem path).outcome = .ok result)
      (arguments.map (includePath context)) nested := by
  rw [List.forall₂_map_left_iff]
  exact hnested.imp fun _ _ => parseFile_of_included?

theorem merges_of_readNested {fileSystem : FileSystem} {opened : List Location}
    {context : SourceContext} {content : String} {settings : Settings}
    (hread : (readNested fileSystem opened context content).outcome = .ok settings) :
    Merges fileSystem context content settings := by
  have hstep := (assembled_readNested hread).inStep
  rw [← toOption_eq_some_iff, toOption_readNested, perform_eq_some_iff] at hread
  obtain ⟨hsound, nested, hnested, rfl⟩ := hread
  constructor
  · exact ⟨nested, parsed_of_included hnested, value?_merged hsound.distinct⟩
  · -- Whatever the included files said of their sources is overwritten.
    intro key
    obtain hvalue | ⟨value, hvalue⟩ := Option.eq_none_or_eq_some
      ((merged context.source ∅ ∅ nested (assignments "" (ofText content))).value? key)
    · rw [hstep.source?_eq_none hvalue, hvalue]
      rfl
    · obtain ⟨source, hsource⟩ := hstep.exists_source? hvalue
      rw [hsource, hvalue]
      rw [merged, Settings.source?_withSource, Option.map_eq_some_iff] at hsource
      obtain ⟨-, -, rfl⟩ := hsource
      rfl

theorem readNested_of_rearranged {fileSystem : FileSystem} {opened : List Location}
    {context : SourceContext} {content other : String} {settings : Settings}
    (hother : Rearranged content other)
    (hread : (readNested fileSystem opened context content).outcome = .ok settings) :
    (readNested fileSystem opened context other).outcome = .ok settings := by
  rw [← toOption_eq_some_iff, toOption_readNested] at hread ⊢
  rwa [← perform_congr_own hother.2 hother.1]

/-! ## Files in memory -/

theorem opens_memory_iff {files : MemoryFiles} {opened : List Location} {path : Path}
    {location : Location} {content : String} :
    Opens (.memory files) opened path location content ↔
      location = path.names ∧ path.names ∉ opened ∧ files.fileAt? path.names = some content := by
  constructor
  · rintro ⟨hlocate, hclosed, hread⟩
    simp only [FileSystem.locate] at hlocate
    split at hlocate
    · cases hlocate
      simp only [FileSystem.readAt] at hread
      cases hfile : files.fileAt? path.names with
      | none => simp [hfile] at hread
      | some text =>
          rw [hfile] at hread
          cases hread
          exact ⟨rfl, hclosed, rfl⟩
    · cases hlocate
  · rintro ⟨rfl, hclosed, hfile⟩
    exact ⟨by simp [FileSystem.locate, MemoryFiles.fileTypeAt?, hfile], hclosed,
      by simp [FileSystem.readAt, hfile]⟩

/-- The text of a file that is being read has no influence any more. -/
theorem readNested_withFile {files : MemoryFiles} {path : Path} {context : SourceContext}
    {content : String} {settings : Settings} (other : String)
    (hread : (readNested (.memory files) [path.names] context content).outcome =
      .ok settings) :
    (readNested (.memory (files.withFile path other)) [path.names] context content).outcome =
      .ok settings := by
  refine readNested_mono (fun named location text hopen => ?_) hread
  obtain ⟨rfl, hclosed, hfile⟩ := opens_memory_iff.1 hopen
  refine opens_memory_iff.2 ⟨rfl, hclosed, ?_⟩
  rw [MemoryFiles.fileAt?_withFile, if_neg (by simpa using hclosed), hfile]

/-- Files in memory merge, whether a text or a file is read, and all that comes out has the source
that was named first.  Neither the place of the inclusions nor the section that they stand in
matters, so the text may be rearranged. -/
theorem memory_settings_merged (files : MemoryFiles) :
    (∀ content directory? source settings,
      (parse (.memory files) content directory? source).outcome = .ok settings →
        Merges (.memory files) ⟨source, directory?⟩ content settings ∧
        ∀ other, Rearranged content other →
          (parse (.memory files) other directory? source).outcome = .ok settings) ∧
    ∀ path settings, (parseFile (.memory files) path).outcome = .ok settings →
      ∃ content, files.fileAt? path.names = some content ∧
        Merges (.memory files) ⟨path.text, path.normal.parent?⟩ content settings ∧
        ∀ other, Rearranged content other →
          (parseFile (.memory (files.withFile path other)) path).outcome = .ok settings := by
  constructor
  · intro content directory? source settings hparse
    exact ⟨merges_of_readNested hparse, fun other hother =>
      readNested_of_rearranged hother hparse⟩
  · intro path settings hparse
    obtain ⟨location, content, hopen, hread⟩ := parseFile_outcome_eq_ok_iff.1 hparse
    obtain ⟨rfl, -, hfile⟩ := opens_memory_iff.1 hopen
    refine ⟨content, hfile, merges_of_readNested hread, fun other hother => ?_⟩
    refine parseFile_outcome_eq_ok_iff.2 ⟨path.names, other, ?_, ?_⟩
    · exact opens_memory_iff.2 ⟨rfl, by simp, by simp [MemoryFiles.fileAt?_withFile]⟩
    · exact readNested_withFile other (readNested_of_rearranged hother hread)

/-- A text with an inclusion in a section and one outside of it. -/
def sampleText : String :=
  "#include one\nx = 1\n[s]\n#include two\nx = 2\n"

def sampleRearranged : String :=
  "x = 1\n[s]\n#include one\nx = 2\n#include two\n"

def sampleFiles : MemoryFiles :=
  ((MemoryFiles.empty.withFile ⟨"/c/main"⟩ sampleText).withFile ⟨"/c/one"⟩
    "[t]\nk = first\nx = 3\n").withFile ⟨"/c/two"⟩ "#include one\nx = 4\n[t]\nk = second\n"

theorem memory_settings_merged_sample :
    (∃ settings,
      (parse (.memory sampleFiles) sampleText (some ⟨"/c"⟩) "inline").outcome = .ok settings ∧
      settings.value? "t.k" = some "second" ∧
      Merges (.memory sampleFiles) ⟨"inline", some ⟨"/c"⟩⟩ sampleText settings ∧
      (parse (.memory sampleFiles) sampleRearranged (some ⟨"/c"⟩) "inline").outcome =
        .ok settings) ∧
    ∃ settings content,
      (parseFile (.memory sampleFiles) ⟨"/c/main"⟩).outcome = .ok settings ∧
      settings.value? "t.k" = some "second" ∧
      Merges (.memory sampleFiles) ⟨"/c/main", some ⟨"/c"⟩⟩ content settings := by
  have hrearranged : Rearranged sampleText sampleRearranged :=
    ⟨by decide +kernel, by decide +kernel⟩
  have htext : (parse (.memory sampleFiles) sampleText (some ⟨"/c"⟩)
      "inline").outcome.toOption.bind (·.value? "t.k") = some "second" := by
    decide +kernel
  have hfile : (parseFile (.memory sampleFiles) ⟨"/c/main"⟩).outcome.toOption.bind
      (·.value? "t.k") = some "second" := by
    decide +kernel
  obtain ⟨settings, hparse, hvalue⟩ := Option.bind_eq_some_iff.1 htext
  obtain ⟨loaded, hload, hloaded⟩ := Option.bind_eq_some_iff.1 hfile
  rw [toOption_eq_some_iff] at hparse hload
  have hmerged := (memory_settings_merged sampleFiles).1 _ _ _ _ hparse
  obtain ⟨content, -, hmerges, -⟩ := (memory_settings_merged sampleFiles).2 _ _ hload
  have hparent : (⟨"/c/main"⟩ : Path).normal.parent? = some ⟨"/c"⟩ := by decide
  rw [hparent] at hmerges
  exact ⟨⟨settings, hparse, hvalue, hmerged.1, hmerged.2 _ hrearranged⟩,
    loaded, content, hload, hloaded, hmerges⟩

end OptionsFile

end TypedOptions
