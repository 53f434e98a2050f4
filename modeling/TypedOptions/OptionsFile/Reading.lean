import TypedOptions.FileSystem.Reader
import TypedOptions.Log
import TypedOptions.OptionsFile.Statement
import TypedOptions.Settings

/-!
# Reading option files

The lines of a file are worked off one by one.  Assignments of the file win
over everything it includes, and later inclusions over earlier ones.  An
inclusion opens a file that is not open yet, so the number of readable files
that are still closed bounds the depth of inclusions.
-/

namespace TypedOptions

/-- Where a text comes from: its name, and the directory against which it names other files. -/
structure SourceContext where
  name : String
  directory? : Option Path

/-- What the settings of the text have for a source. -/
def SourceContext.source (context : SourceContext) : OptionSource :=
  .path ⟨context.name⟩

/-- What is known after some lines of a text. -/
structure Draft where
  source : OptionSource
  /-- The section at hand, empty outside of sections. -/
  heading : String
  /-- A key whose value goes on in the next line, with the value so far. -/
  pending? : Option (String × List Char)
  direct : Settings
  included : Settings

namespace Draft

def empty (source : OptionSource) : Draft :=
  ⟨source, "", none, ∅, ∅⟩

def assign (draft : Draft) (key : String) (value : List Char) : Draft :=
  { draft with direct := draft.direct.insert key ⟨String.ofList value, draft.source⟩ }

/-- Adds one more part to a value, which goes on if the part ends with a continuation mark. -/
def addPart (draft : Draft) (key : String) (value part : List Char) : Draft :=
  let (part, goesOn) := Statement.splitContinuation part
  if goesOn then { draft with pending? := some (key, value ++ part) }
  else { draft with pending? := none }.assign key (value ++ part)

/-- All settings of the text, at whose end an open value is complete.  Those of the files that it
includes count as its own. -/
def settings (draft : Draft) : Settings :=
  let draft :=
    match draft.pending? with
    | some (key, value) => draft.assign key value
    | none => draft
  (draft.included.extend draft.direct).withSource draft.source

end Draft

abbrev Reading := Logged OptionsFileError

/-- Reads the file that an argument names; given the number and the text of its line. -/
abbrev Visit := String → Nat → List Char → Reading Settings

namespace OptionsFile

variable (context : SourceContext) (visit : Visit)

def refuse {α : Type} (fault : LineFault) (number : Nat) (line : List Char) : Reading α :=
  .fail (.line fault context.name number (String.ofList line))

/-- Works off a trimmed line that starts a statement. -/
def execute (draft : Draft) (number : Nat) (line : List Char) : Reading Draft :=
  match Statement.read line with
  | .nothing => pure draft
  | .inclusion argument => do
      let nested ← visit argument number line
      pure { draft with included := draft.included.extend nested }
  | .heading name => pure { draft with heading := name }
  | .assignment key value =>
      let key := OptionName.qualify draft.heading key
      if key ∈ draft.direct then refuse context .duplicateOption number line
      else pure (draft.addPart key [] value)
  | .faulty fault => refuse context fault number line

def readLine (draft : Draft) (number : Nat) (line : List Char) : Reading Draft :=
  match draft.pending? with
  | some (key, value) => pure (draft.addPart key value (Text.trim line))
  | none => execute context visit draft number (Text.trim line)

/-- Works off lines, the first of which has the given number. -/
def readLines (draft : Draft) (number : Nat) : List (List Char) → Reading Draft
  | [] => pure draft
  | line :: rest => do
      let next ← readLine context visit draft number line
      readLines next (number + 1) rest

def readText (content : String) : Reading Settings := do
  let draft ← readLines context visit (.empty context.source) 1 (Text.lines content.toList)
  Logged.log (.parsed draft.settings.size context.name)
  pure draft.settings

def includePath (argument : String) : Path :=
  match context.directory? with
  | some directory => directory.join ⟨argument⟩
  | none => ⟨argument⟩

theorem closed_length_lt {locations opened : List Location} {location : Location}
    (hmem : location ∈ locations) (hclosed : location ∉ opened) :
    (locations.filter (· ∉ location :: opened)).length <
      (locations.filter (· ∉ opened)).length := by
  have hsplit : locations.filter (· ∉ location :: opened) =
      (locations.filter (· ∉ opened)).filter (· ≠ location) := by
    rw [List.filter_filter]
    exact List.filter_congr fun other _ => by simp [not_or]
  rw [hsplit]
  exact List.length_filter_lt_length_iff_exists.2
    ⟨location, List.mem_filter.2 ⟨hmem, by simpa using hclosed⟩, by simp⟩

/-- The settings of a text while the files of the places `opened` are being read. -/
def readNested (fileSystem : FileSystem) (opened : List Location) (context : SourceContext)
    (content : String) : Reading Settings :=
  readText context (fun argument number line =>
    let path := includePath context argument
    match fileSystem.locate path with
    | .error cause => .fail (.unreadableInclude path context.name number cause)
    | .ok location =>
        if _ : location ∈ opened then refuse context .circularInclusion number line
        else
          match _ : fileSystem.readAt location.path location with
          | .error cause => .fail (.unreadableInclude location.path context.name number cause)
          | .ok nested => do
              Logged.log (.including location.path.text number context.name)
              readNested fileSystem (location :: opened) ⟨path.text, location.path.parent?⟩ nested)
    content
termination_by (fileSystem.locations.filter (· ∉ opened)).length
decreasing_by
  exact closed_length_lt (FileSystem.mem_locations_of_readAt ‹_›) ‹_›

/-- Reads a text that may name files relative to a directory. -/
def parse (fileSystem : FileSystem) (content : String) (directory? : Option Path)
    (source : String) : Reading Settings :=
  readNested fileSystem [] ⟨source, directory?⟩ content

/-- Reads a file, which names other files relative to its own directory. -/
def parseFile (fileSystem : FileSystem) (path : Path) : Reading Settings :=
  match fileSystem.locate path with
  | .error cause => .fail (.unreadableFile path cause)
  | .ok location =>
      match fileSystem.readAt location.path location with
      | .error cause => .fail (.unreadableFile path cause)
      | .ok content => readNested fileSystem [location] ⟨path.text, location.path.parent?⟩ content

end OptionsFile

end TypedOptions
