import TypedOptions.Converter.Context
import TypedOptions.FileSystem.Reader

/-!
# Files and directories

Files that the program writes are placed below the output directory.  Files
that it reads are placed beside the option file that names them, or below
the root directory.  In safe mode a path must not leave the place where it
starts, and only paths below the temporary directory may be absolute.
-/

namespace TypedOptions

structure FileOptions where
  outputPath : String
  outputDisabled : Bool
  rootDirectory : String
  deriving DecidableEq, Repr

def FileOptions.default : FileOptions :=
  ⟨"output/", false, "."⟩

structure FileConverter where
  root : Path
  output : Path
  outputDisabled : Bool
  safe : Bool
  fileSystem : FileSystem

namespace FileConverter

def converterName : String := "FileTypeConverter"

def temporaryDirectory : Path :=
  ⟨"/tmp"⟩

/-- How many levels a component leads down. -/
def levels : Path.Component → Int
  | .parent => -1
  | .current => 0
  | _ => 1

/-- Whether no component leads above the level where the first one starts. -/
def staysBelow (depth : Int) : List Path.Component → Bool
  | [] => true
  | component :: rest => 0 ≤ depth + levels component && staysBelow (depth + levels component) rest

/-- Why a path is forbidden in safe mode. -/
def pathFault? (path : Path) : Option PathFault :=
  let components :=
    if path.isAbsolute then
      if path.isWithin temporaryDirectory then
        some (path.components.drop temporaryDirectory.components.length)
      else none
    else some path.components
  match components with
  | none => some .absolute
  | some components => if staysBelow 0 components then none else some .notBelow

def checkSafe (option : String) (path : Path) : Except OptionError Unit :=
  match pathFault? path with
  | some fault => .error (.configuration (.unsafePath option path fault))
  | none => .ok ()

def ofOptions (options : FileOptions) (safe : Bool) (fileSystem : FileSystem) : FileConverter where
  root := ⟨options.rootDirectory⟩
  output := Path.join ⟨options.rootDirectory⟩ ⟨options.outputPath⟩
  outputDisabled := options.outputDisabled
  safe := safe
  fileSystem := fileSystem

/-- The converter for some options, whose directories have to be safe in safe mode. -/
def create (options : FileOptions) (safe : Bool) (fileSystem : FileSystem) :
    Except OptionError FileConverter := do
  if safe then
    checkSafe "rootDirectory" ⟨options.rootDirectory⟩
    checkSafe "output.path" ⟨options.outputPath⟩
  return ofOptions options safe fileSystem

def ofDefaults (safe : Bool) (fileSystem : FileSystem) : FileConverter :=
  ofOptions .default safe fileSystem

def kindOf (context : ConversionContext) : Except OptionError FileKind :=
  match context.annotation? with
  | some (.file kind) => .ok kind
  | _ => .error (context.unsupported .unannotatedPath)

theorem kindOf_eq_ok_iff {context : ConversionContext} {kind : FileKind} :
    kindOf context = .ok kind ↔ context.annotation? = some (.file kind) := by
  unfold kindOf
  split
  · rename_i hfile
    simp [hfile]
  · rename_i hother
    exact ⟨fun hok => (by cases hok), fun hfile => absurd hfile (hother kind)⟩

def startDirectory (converter : FileConverter) (kind : FileKind) (source? : Option OptionSource) :
    Path :=
  if kind.isOutput then converter.output
  else
    match (source?.bind OptionSource.path?).bind Path.parent? with
    | some directory => if directory.text = "" then converter.root else directory
    | none => converter.root

def resolve (converter : FileConverter) (kind : FileKind) (source? : Option OptionSource)
    (path : Path) : Path :=
  (converter.startDirectory kind source?).join path

/-- Why what a path names is not fit for the role of the option. -/
def placeFault? (converter : FileConverter) (kind : FileKind) (path : Path) : Option ValueFault :=
  match kind, converter.fileSystem.fileType? path with
  | .outputDirectory, some .file => some .fileForDirectory
  | .outputDirectory, _ => none
  | _, some .directory => some .directoryForFile
  | .requiredInput, _ =>
      match converter.fileSystem.checkReadable path with
      | .ok () => none
      | .error cause => some (.unreadable cause)
  | _, _ => none

/-- The place of a path, which has to be fit for the option. -/
def place (converter : FileConverter) (context : ConversionContext) (kind : FileKind)
    (source? : Option OptionSource) (path : Path) : Except OptionError Path :=
  let resolved := converter.resolve kind source? path
  match converter.placeFault? kind resolved with
  | some fault => .error (context.invalid resolved.text fault)
  | none => .ok resolved

/-- A template is placed like a path, but what it names is not known yet. -/
def placeTemplate (converter : FileConverter) (kind : FileKind) (source? : Option OptionSource)
    (template : String) : PathTemplate :=
  ⟨(converter.resolve kind source? ⟨template⟩).text⟩

def convert (converter : FileConverter) (context : ConversionContext) (text : String)
    (target : OptionType) : Conversion := do
  let kind ← kindOf context
  match target with
  | .element .path =>
      if converter.safe then checkSafe context.option ⟨text⟩
      return .path (← converter.place context kind context.source? ⟨text⟩)
  | .element .pathTemplate =>
      if converter.safe then checkSafe context.option ⟨text⟩
      return .pathTemplate (converter.placeTemplate kind context.source? text)
  | _ => throw (context.unsupported (.wrongTarget converterName target))

mutual

/-- Places a default value.  Defaults of output options vanish while output is disabled. -/
def placeDefault (converter : FileConverter) (context : ConversionContext) (kind : FileKind)
    (value : Value) : Conversion :=
  match value with
  | .collection items =>
      if kind.isOutput && converter.outputDisabled then .ok (.collection [])
      else (placeDefaults converter context kind items).map .collection
  | .path path =>
      if kind.isOutput && converter.outputDisabled then .ok .absent
      else (converter.place context kind none path).map .path
  | .pathTemplate template =>
      if kind.isOutput && converter.outputDisabled then .ok .absent
      else .ok (.pathTemplate (converter.placeTemplate kind none template.text))
  | value => if kind.isOutput && converter.outputDisabled then .ok .absent else .ok value

def placeDefaults (converter : FileConverter) (context : ConversionContext) (kind : FileKind)
    (items : List Value) : Except OptionError (List Value) :=
  match items with
  | [] => .ok []
  | item :: rest => do
      let first ← placeDefault converter context kind item
      return first :: (← placeDefaults converter context kind rest)

end

def convertDefault (converter : FileConverter) (context : ConversionContext) (value : Value) :
    Conversion :=
  match value with
  | .absent => .ok .absent
  | value => do
      let kind ← kindOf context
      converter.placeDefault context kind value

end FileConverter

end TypedOptions
