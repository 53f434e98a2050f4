import TypedOptions.FileSystem.Reader
import TypedOptions.Proofs.Lists
import TypedOptions.Proofs.Path.Ancestors

/-!
# Files in memory by their history

Files and directories are added one after another.  A place exists if it or
something below it was added, and it holds the text that was added there
last, however the path was spelled.  So all questions about a path are
questions about its normal form, and they agree with each other; only the
error for a path that leads nowhere repeats its spelling.
-/

namespace TypedOptions

/-! ## Additions -/

inductive Addition where
  | file (path : Path) (content : String)
  | directory (path : Path)

namespace Addition

def path : Addition → Path
  | file path _ => path
  | directory path => path

/-- The addition puts a file at the place that the normal path leads to. -/
def IsFileAt (normal : Path) (addition : Addition) : Prop :=
  ∃ path content, addition = .file path content ∧ path.normal = normal

end Addition

namespace MemoryFiles

def add (memory : MemoryFiles) : Addition → MemoryFiles
  | .file path content => memory.withFile path content
  | .directory path => memory.withDirectory path

def ofAdditions (additions : List Addition) : MemoryFiles :=
  additions.foldl add empty

variable {memory : MemoryFiles} {additions : List Addition} {location : Location}

theorem ofAdditions_append (additions : List Addition) (last : Addition) :
    ofAdditions (additions ++ [last]) = (ofAdditions additions).add last := by
  simp [ofAdditions]

theorem isSome_fileTypeAt?_iff :
    (memory.fileTypeAt? location).isSome = true ↔
      (memory.fileAt? location).isSome = true ∨ location ∈ memory.directories := by
  unfold fileTypeAt?
  split
  · rename_i hfile
    simp [hfile]
  · rename_i hfile
    simp [hfile]

/-- An addition makes exist what it adds and all places above. -/
theorem isSome_fileTypeAt?_add (addition : Addition) :
    ((memory.add addition).fileTypeAt? location).isSome = true ↔
      location <+: addition.path.names ∨ (memory.fileTypeAt? location).isSome = true := by
  rw [Path.prefix_iff_eq_or, ← Path.mem_ancestors_iff, isSome_fileTypeAt?_iff,
    isSome_fileTypeAt?_iff]
  cases addition with
  | file path content =>
      rw [Addition.path, add, fileAt?_withFile, withFile, List.mem_append]
      by_cases hplace : location = path.names
      · simp [hplace]
      · simp [hplace, or_left_comm]
  | directory path =>
      rw [Addition.path, add, fileAt?_withDirectory, withDirectory, List.cons_append,
        List.mem_cons, List.mem_append]
      tauto

theorem isSome_fileTypeAt?_ofAdditions :
    ((ofAdditions additions).fileTypeAt? location).isSome = true ↔
      ∃ addition ∈ additions, location <+: addition.path.names := by
  induction additions using List.reverseRecOn with
  | nil => exact ⟨nofun, fun ⟨_, hmem, _⟩ => nomatch hmem⟩
  | append_singleton additions last ih =>
      rw [ofAdditions_append, isSome_fileTypeAt?_add, ih]
      simp [or_comm, or_and_right, exists_or]

/-- A file holds what was added at its place last. -/
theorem fileAt?_ofAdditions {path : Path} {content : String} :
    (ofAdditions additions).fileAt? path.names = some content ↔
      ∃ added, IsLast (Addition.IsFileAt path.normal) additions (.file added content) := by
  induction additions using List.reverseRecOn with
  | nil => exact ⟨nofun, fun ⟨_, hlast⟩ => absurd hlast not_isLast_nil⟩
  | append_singleton additions last ih =>
      rw [ofAdditions_append]
      cases last with
      | directory other =>
          have hno : ¬(Addition.directory other).IsFileAt path.normal := nofun
          simp only [isLast_append_of_not_holds hno, ← ih]
          rfl
      | file other written =>
          rw [add, fileAt?_withFile]
          by_cases hplace : path.names = other.names
          · have hfile : (Addition.file other written).IsFileAt path.normal :=
              ⟨other, written, rfl, Path.normal_eq_iff.2 hplace.symm⟩
            simp [hplace, isLast_append_of_holds hfile, eq_comm]
          · have hno : ¬(Addition.file other written).IsFileAt path.normal := by
              rintro ⟨_, _, heq, hnormal⟩
              cases heq
              exact hplace (Path.normal_eq_iff.1 hnormal).symm
            simp only [hplace, if_false, isLast_append_of_not_holds hno, ih]

end MemoryFiles

/-! ## Questions about paths -/

namespace FileSystem

/-- The answers are the same, except that an error names the path that was asked about. -/
inductive SameAnswer {α : Type} (path other : Path) : Except FileError α → Except FileError α → Prop
    where
  | ok (answer : α) : SameAnswer path other (.ok answer) (.ok answer)
  | absent : SameAnswer path other (.error (.absent path)) (.error (.absent other))

variable {files : MemoryFiles} {path other : Path}

theorem read_memory_eq_ok_iff {content : String} :
    (memory files).read path = .ok content ↔ files.fileAt? path.names = some content := by
  simp only [read, readAt]
  cases files.fileAt? path.names <;> simp

theorem canonicalize_memory_eq_ok_iff {canonical : Path} :
    (memory files).canonicalize path = .ok canonical ↔
      ((memory files).fileType? path).isSome = true ∧ canonical = path.normal := by
  simp only [canonicalize, locate, fileType?]
  split
  · rename_i hexists
    simp [Except.map, hexists, eq_comm, Location.path, Path.normal]
  · rename_i hnone
    simp [Except.map, hnone]

theorem fileType?_memory_eq_file_iff :
    (memory files).fileType? path = some .file ↔
      (files.fileAt? path.names).isSome = true := by
  simp only [fileType?, MemoryFiles.fileTypeAt?]
  split
  · rename_i hfile
    simp [hfile]
  · rename_i hnone
    split <;> simp [hnone]

theorem sameAnswer_read (hnormal : path.normal = other.normal) :
    SameAnswer path other ((memory files).read path) ((memory files).read other) := by
  simp only [read, readAt, Path.normal_eq_iff.1 hnormal]
  cases files.fileAt? other.names with
  | some content => exact .ok content
  | none => exact .absent

theorem sameAnswer_canonicalize (hnormal : path.normal = other.normal) :
    SameAnswer path other ((memory files).canonicalize path) ((memory files).canonicalize other) := by
  simp only [canonicalize, locate, Path.normal_eq_iff.1 hnormal]
  split
  · exact .ok _
  · exact .absent

theorem fileType?_memory_congr (hnormal : path.normal = other.normal) :
    (memory files).fileType? path = (memory files).fileType? other := by
  simp only [fileType?, Path.normal_eq_iff.1 hnormal]

theorem isSome_fileType?_memory_iff {additions : List Addition} :
    ((memory (.ofAdditions additions)).fileType? path).isSome = true ↔
      ∃ addition ∈ additions, path.normal = addition.path.normal ∨
        path.normal.IsAbove addition.path.normal := by
  rw [fileType?, MemoryFiles.isSome_fileTypeAt?_ofAdditions]
  refine exists_congr fun addition => and_congr_right fun _ => ?_
  rw [Path.normal_eq_iff, Path.isAbove_normal_iff]
  exact Path.prefix_iff_eq_or

/-- A normal path is absolute, has no points and is its own normal form, and where a path leads to
from a base does not depend on the spelling of the base.  Whatever was added to files in memory, and
in which order, what they answer about a path depends on its normal form alone, except that errors
repeat the path.  Reading succeeds exactly for files and gives what was added at the place last.
What exists is what was added and all that is above it, and just this has a canonical path. -/
theorem memory_told_by_normal_paths :
    (∀ path : Path, path.normal.isAbsolute = true ∧ .current ∉ path.normal.components ∧
      .parent ∉ path.normal.components ∧ path.normal.normal = path.normal) ∧
    (∀ base path : Path, (base.join path).normal = (base.normal.join path).normal) ∧
    ∀ additions : List Addition,
      let files : FileSystem := .memory (.ofAdditions additions)
      (∀ path other : Path, path.normal = other.normal →
        SameAnswer path other (files.read path) (files.read other) ∧
        SameAnswer path other (files.canonicalize path) (files.canonicalize other) ∧
        files.fileType? path = files.fileType? other) ∧
      (∀ path : Path,
        ((∃ content, files.read path = .ok content) ↔ files.fileType? path = some .file) ∧
        (∀ content, files.read path = .ok content ↔
          ∃ added, IsLast (Addition.IsFileAt path.normal) additions (.file added content)) ∧
        ((∃ canonical, files.canonicalize path = .ok canonical) ↔
          (files.fileType? path).isSome = true) ∧
        (∀ canonical, files.canonicalize path = .ok canonical →
          canonical = path.normal ∧ files.canonicalize canonical = .ok canonical) ∧
        ((files.fileType? path).isSome = true ↔
          ∃ addition ∈ additions, path.normal = addition.path.normal ∨
            path.normal.IsAbove addition.path.normal)) := by
  refine ⟨fun path => ?_, fun base path => (base.normal_join_normal path).symm, fun additions => ?_⟩
  · have hcomponents := path.components_normal
    exact ⟨path.isAbsolute_normal, by simp [hcomponents], by simp [hcomponents],
      path.normal_normal⟩
  intro files
  refine ⟨fun path other hnormal => ?_, fun path => ⟨?_, fun content => ?_, ?_,
    fun canonical hcanonical => ?_, isSome_fileType?_memory_iff⟩⟩
  · exact ⟨sameAnswer_read hnormal, sameAnswer_canonicalize hnormal,
      fileType?_memory_congr hnormal⟩
  · rw [fileType?_memory_eq_file_iff, Option.isSome_iff_exists]
    exact exists_congr fun content => read_memory_eq_ok_iff
  · exact read_memory_eq_ok_iff.trans MemoryFiles.fileAt?_ofAdditions
  · simp only [files, canonicalize_memory_eq_ok_iff, exists_and_left, exists_eq, and_true]
  · obtain ⟨hexists, rfl⟩ := canonicalize_memory_eq_ok_iff.1 hcanonical
    have hsame : files.fileType? path.normal = files.fileType? path :=
      fileType?_memory_congr path.normal_normal
    refine ⟨rfl, canonicalize_memory_eq_ok_iff.2 ⟨?_, path.normal_normal.symm⟩⟩
    rwa [← hsame] at hexists

/-- The error for a path that leads nowhere tells spellings of the path apart. -/
theorem absent_named_as_given :
    let files : FileSystem := .memory (.ofAdditions [])
    (⟨"x"⟩ : Path).normal = (⟨"/x"⟩ : Path).normal ∧
      files.read ⟨"x"⟩ = .error (.absent ⟨"x"⟩) ∧ files.read ⟨"/x"⟩ = .error (.absent ⟨"/x"⟩) ∧
      (FileError.absent ⟨"x"⟩).message ≠ (FileError.absent ⟨"/x"⟩).message := by
  refine ⟨by decide, rfl, rfl, by decide⟩

/-- A file that is added twice, by different spellings, with a directory below it in between. -/
def sampleAdditions : List Addition :=
  [.file ⟨"/c/a/../b//x"⟩ "1", .directory ⟨"c/b/x/y"⟩, .file ⟨"/c/./b/x"⟩ "2"]

theorem memory_told_by_normal_paths_sample :
    let files : FileSystem := .memory (.ofAdditions sampleAdditions)
    let path : Path := ⟨"c/b/z/../x/"⟩
    let other : Path := ⟨"/c/b/x"⟩
    path.normal = other.normal ∧
      SameAnswer path other (files.read path) (files.read other) ∧
      files.read path = .ok "2" ∧ files.fileType? path = some .file ∧
      files.canonicalize path = .ok other ∧ files.canonicalize other = .ok other ∧
      (⟨"/c/"⟩ : Path).normal.IsAbove (⟨"c/b/x/y"⟩ : Path).normal ∧
      (files.fileType? ⟨"/c/"⟩).isSome = true := by
  intro files path other
  obtain ⟨-, -, hadditions⟩ := memory_told_by_normal_paths
  obtain ⟨hsame, hpaths⟩ := hadditions sampleAdditions
  have hnormal : path.normal = other.normal := by decide
  obtain ⟨hfile, hcontent, hexists, hcanonical, -⟩ := hpaths path
  have hread : files.read path = .ok "2" :=
    (hcontent "2").2 ⟨⟨"/c/./b/x"⟩, sampleAdditions.take 2, [], rfl,
      ⟨⟨"/c/./b/x"⟩, "2", rfl, by decide⟩, nofun⟩
  have htype := hfile.1 ⟨"2", hread⟩
  obtain ⟨canonical, hok⟩ := hexists.2 (Option.isSome_of_eq_some htype)
  obtain ⟨rfl, hagain⟩ := hcanonical canonical hok
  have hother : path.normal = other := by decide
  rw [hother] at hok hagain
  have habove : (⟨"/c/"⟩ : Path).normal.IsAbove (⟨"c/b/x/y"⟩ : Path).normal :=
    Path.isAbove_normal_iff.2 (by decide)
  exact ⟨hnormal, (hsame path other hnormal).1, hread, htype, hok, hagain, habove,
    (hpaths ⟨"/c/"⟩).2.2.2.2.2 ⟨.directory ⟨"c/b/x/y"⟩, by simp [sampleAdditions], Or.inr habove⟩⟩

end FileSystem

end TypedOptions
