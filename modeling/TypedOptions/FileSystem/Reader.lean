import TypedOptions.FileSystem.Disk
import TypedOptions.FileSystem.Memory

/-!
# Reading files

The two kinds of file systems behind one set of questions.  A path is first
led to its place, and contents are read by place; the places that can be
read are finitely many.
-/

namespace TypedOptions

inductive FileSystem where
  | memory (files : MemoryFiles)
  | disk (files : DiskFiles)

namespace FileSystem

def locate (fileSystem : FileSystem) (path : Path) : Except FileError Location :=
  match fileSystem with
  | .memory files =>
      if (files.fileTypeAt? path.names).isSome then .ok path.names else .error (.absent path)
  | .disk files => files.locate path

/-- The absolute path of an existing file or directory. -/
def canonicalize (fileSystem : FileSystem) (path : Path) : Except FileError Path :=
  (fileSystem.locate path).map Location.path

/-- The content of a place; `path` is how the place is called in an error. -/
def readAt (fileSystem : FileSystem) (path : Path) (location : Location) :
    Except FileError String :=
  match fileSystem with
  | .memory files =>
      match files.fileAt? location with
      | some content => .ok content
      | none => .error (.absent path)
  | .disk files => files.readAt path location

def read (fileSystem : FileSystem) (path : Path) : Except FileError String :=
  match fileSystem with
  | .memory _ => fileSystem.readAt path path.names
  | .disk files => do
      let location ← files.locate path
      fileSystem.readAt path location

def fileType? (fileSystem : FileSystem) (path : Path) : Option FileType :=
  match fileSystem with
  | .memory files => files.fileTypeAt? path.names
  | .disk files =>
      match files.locate path with
      | .ok location => files.fileTypeAt? location
      | .error _ => none

def checkReadable (fileSystem : FileSystem) (path : Path) : Except FileError Unit :=
  match fileSystem with
  | .memory _ => (fileSystem.read path).map fun _ => ()
  | .disk files => do
      let location ← files.locate path
      if files.isDirectoryAt location then
        throw (.isDirectory path)

def locations : FileSystem → List Location
  | .memory files => files.files.map Prod.fst
  | .disk files => files.nodes.map Prod.fst

theorem mem_locations_of_readAt {fileSystem : FileSystem} {path : Path} {location : Location}
    {content : String} (h : fileSystem.readAt path location = .ok content) :
    location ∈ fileSystem.locations := by
  cases fileSystem with
  | memory files =>
      simp only [readAt] at h
      split at h
      · exact MemoryFiles.mem_files_of_fileAt? ‹_›
      · cases h
  | disk files =>
      cases hnode : files.nodeAt? location with
      | none => simp [readAt, DiskFiles.readAt, hnode] at h
      | some node => exact DiskFiles.mem_nodes_of_nodeAt? hnode

end FileSystem

end TypedOptions
