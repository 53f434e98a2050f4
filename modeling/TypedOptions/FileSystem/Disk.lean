import TypedOptions.FileSystem.Basic

/-!
# Files on a disk

Places are walked to from the root or from the working directory, name by
name: every place on the way has to be a directory, and so has one that is
followed by a slash.
-/

namespace TypedOptions

/-- A file's size and its text, if its bytes form one. -/
structure DiskFile where
  size : Nat
  text? : Option String

inductive DiskNode where
  | file (file : DiskFile)
  | directory
  | device

structure DiskFiles where
  nodes : List (Location × DiskNode)
  workingDirectory : Location

namespace DiskFile

def ofString (text : String) : DiskFile :=
  ⟨text.utf8ByteSize, some text⟩

def ofBytes (bytes : ByteArray) : DiskFile :=
  ⟨bytes.size, String.fromUTF8? bytes⟩

/-- A file of zero bytes.  The text of one too large to be read is not kept. -/
def ofZeros (size : Nat) : DiskFile :=
  ⟨size, if size ≤ maxFileSize then some ("".pushn '\x00' size) else none⟩

end DiskFile

namespace DiskFiles

def nodeAt? (disk : DiskFiles) (location : Location) : Option DiskNode :=
  disk.nodes.lookup location

def isDirectoryAt (disk : DiskFiles) (location : Location) : Bool :=
  match disk.nodeAt? location with
  | some .directory => true
  | _ => false

/-- Goes on from a place along the pieces of a path. -/
def walk (disk : DiskFiles) (location : Location) : List (List Char) → Except FileError Location
  | [] => .ok location
  | piece :: rest =>
      if !disk.isDirectoryAt location then .error .notADirectory
      else
        match Path.component? piece with
        | some .parent => disk.walk location.dropLast rest
        | some (.name name) =>
            if name.utf8ByteSize > 255 then .error .nameTooLong
            else if (disk.nodeAt? (location ++ [name])).isSome then
              disk.walk (location ++ [name]) rest
            else .error .noSuchFile
        | _ => disk.walk location rest

def locate (disk : DiskFiles) (path : Path) : Except FileError Location :=
  if path.text.toList.contains '\x00' then .error .nulInName
  else if path.text = "" then .error .noSuchFile
  else if path.text.utf8ByteSize ≥ 4096 then .error .nameTooLong
  else
    disk.walk (if path.isAbsolute then [] else disk.workingDirectory)
      (Text.splitAll '/' path.text.toList)

def fileTypeAt? (disk : DiskFiles) (location : Location) : Option FileType :=
  match disk.nodeAt? location with
  | some (.file _) => some .file
  | some .directory => some .directory
  | some .device => some .other
  | none => none

/-- The content of a place that was named by `path`. -/
def readAt (disk : DiskFiles) (path : Path) (location : Location) : Except FileError String :=
  match disk.nodeAt? location with
  | none => .error .noSuchFile
  | some .directory => .error (.isDirectory path)
  | some .device => .ok ""
  | some (.file file) =>
      if file.size > maxFileSize then .error (.tooLarge file.size)
      else
        match file.text? with
        | some text => .ok text
        | none => .error .notText

/-- Adds a node and the directories above it that do not exist yet. -/
def withNode (disk : DiskFiles) (location : Location) (node : DiskNode) : DiskFiles where
  nodes := (location, node) ::
    ((Path.ancestors location).filter fun ancestor => (disk.nodeAt? ancestor).isNone).map
      (·, DiskNode.directory) ++ disk.nodes
  workingDirectory := disk.workingDirectory

/-- A disk with an empty working directory. -/
def ofWorkingDirectory (location : Location) : DiskFiles :=
  let bare : DiskFiles :=
    { nodes := [([], .directory), (["tmp"], .directory), (["dev"], .directory),
        (["dev", "null"], .device), (["etc"], .directory), (["home"], .directory),
        (["usr"], .directory)]
      workingDirectory := location }
  bare.withNode location .directory

/-- The place of a path below the working directory, for files that are put there. -/
def placeBelow (disk : DiskFiles) (path : Path) : Location :=
  path.components.foldl Path.step (if path.isAbsolute then [] else disk.workingDirectory)

theorem mem_nodes_of_nodeAt? {disk : DiskFiles} {location : Location} {node : DiskNode}
    (h : disk.nodeAt? location = some node) : location ∈ disk.nodes.map Prod.fst := by
  unfold nodeAt? at h
  generalize disk.nodes = nodes at h ⊢
  induction nodes with
  | nil => simp at h
  | cons entry rest ih =>
      by_cases hentry : location = entry.1
      · simp [hentry]
      · have hbeq : (location == entry.1) = false := by simpa using hentry
        rw [List.lookup_cons, hbeq] at h
        exact List.mem_cons_of_mem _ (ih h)

end DiskFiles

end TypedOptions
