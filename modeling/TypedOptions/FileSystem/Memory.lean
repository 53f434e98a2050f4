import TypedOptions.FileSystem.Basic

/-!
# Files in memory

Every path is brought into normal form before it is looked up, so a relative
path starts at the root and a double point works also behind a name that
does not exist.  The directories above a file exist with it.
-/

namespace TypedOptions

structure MemoryFiles where
  files : List (Location × String)
  directories : List Location

namespace MemoryFiles

def empty : MemoryFiles :=
  ⟨[], []⟩

/-- Adds a file, in place of an earlier one. -/
def withFile (memory : MemoryFiles) (path : Path) (content : String) : MemoryFiles where
  files := (path.names, content) :: memory.files
  directories := Path.ancestors path.names ++ memory.directories

def withDirectory (memory : MemoryFiles) (path : Path) : MemoryFiles where
  files := memory.files
  directories := path.names :: Path.ancestors path.names ++ memory.directories

def fileAt? (memory : MemoryFiles) (location : Location) : Option String :=
  memory.files.lookup location

/-- A file hides a directory of the same place. -/
def fileTypeAt? (memory : MemoryFiles) (location : Location) : Option FileType :=
  if (memory.fileAt? location).isSome then some .file
  else if memory.directories.contains location then some .directory
  else none

theorem fileAt?_withFile (memory : MemoryFiles) (path : Path) (content : String)
    (location : Location) :
    (memory.withFile path content).fileAt? location =
      if location = path.names then some content else memory.fileAt? location := by
  by_cases h : location = path.names
  · simp [withFile, fileAt?, h]
  · have hbeq : (location == path.names) = false := by simpa using h
    simp [withFile, fileAt?, List.lookup_cons, h, hbeq]

@[simp] theorem fileAt?_withDirectory (memory : MemoryFiles) (path : Path) (location : Location) :
    (memory.withDirectory path).fileAt? location = memory.fileAt? location :=
  rfl

theorem mem_files_of_fileAt? {memory : MemoryFiles} {location : Location} {content : String}
    (h : memory.fileAt? location = some content) : location ∈ memory.files.map Prod.fst := by
  unfold fileAt? at h
  generalize memory.files = files at h ⊢
  induction files with
  | nil => simp at h
  | cons entry rest ih =>
      by_cases hentry : location = entry.1
      · simp [hentry]
      · have hbeq : (location == entry.1) = false := by simpa using hentry
        rw [List.lookup_cons, hbeq] at h
        exact List.mem_cons_of_mem _ (ih h)

end MemoryFiles

end TypedOptions
