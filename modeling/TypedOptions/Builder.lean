import TypedOptions.CommandLine
import TypedOptions.OptionsFile.Reading
import TypedOptions.OwnOptions
import TypedOptions.Store

/-!
# Building configurations

A builder collects settings, later ones in place of earlier ones, and what
else a configuration needs.  It may start from another configuration, whose
record of usage the new one then shares.  Building injects the options of
the configuration itself; a failed build leaves the builder as it was, and a
successful one empties it.  Every call that can fail gives back the builder
that it leaves.
-/

namespace TypedOptions

/-- What is kept of the configuration that a builder started from. -/
structure BuilderBase where
  usage : UsageId
  settings : Settings

structure Builder where
  settings : Settings
  keyPrefix : String
  overrides : ConverterTable
  registry? : Option RegistryId
  fileSystem? : Option FileSystem
  base? : Option BuilderBase
  /-- Whether it is too late to start from another configuration. -/
  isModified : Bool

/-- What a call leaves behind: the builder, whether or not the call fails, the messages on the way,
and what comes out of it. -/
structure CallResult (α : Type) where
  builder : Builder
  events : List LogEvent
  outcome : Except OptionError α

/-- A call that has come to its end. -/
def CallResult.done (builder : Builder) : CallResult Unit :=
  ⟨builder, [], .ok ()⟩

@[simp] theorem CallResult.builder_done (builder : Builder) : (done builder).builder = builder :=
  rfl

namespace Builder

/-- Fails before anything has been changed. -/
def refuse {α : Type} (builder : Builder) (error : OptionError) : CallResult α :=
  ⟨builder, [], .error error⟩

@[simp] theorem builder_refuse {α : Type} (builder : Builder) (error : OptionError) :
    (builder.refuse error : CallResult α).builder = builder :=
  rfl

def empty : Builder :=
  ⟨∅, "", [], none, none, none, false⟩

def fileSystem (builder : Builder) (environment : Environment) : FileSystem :=
  builder.fileSystem?.getD (.disk environment.disk)

def set (builder : Builder) (name value : String) : Builder :=
  { builder with
    settings := builder.settings.insert name ⟨value, .manual⟩
    isModified := true }

def setAll (builder : Builder) (pairs : List (String × String)) : Builder :=
  pairs.foldl (fun builder (name, value) => builder.set name value) builder

def addSettings (builder : Builder) (settings : Settings) : Builder :=
  { builder with
    settings := builder.settings.extend settings
    isModified := true }

def clear (builder : Builder) (name : String) : Builder :=
  { builder with
    settings := builder.settings.erase name
    isModified := true }

/-- Starts from all of another configuration, which has to come first. -/
def copyFrom (builder : Builder) (config : Configuration) : CallResult Unit :=
  if builder.isModified then builder.refuse (.builder .lateCopy)
  else
    .done
      { settings := config.settings
        keyPrefix := config.keyPrefix
        overrides := config.overrides
        registry? := some config.registry
        fileSystem? := some config.fileSystem
        base? := some ⟨config.usage, config.settings⟩
        isModified := true }

/-- Takes over one setting of another configuration. -/
def copySettingFrom (builder : Builder) (config : Configuration) (name : String) :
    CallResult Unit :=
  match config.settings[name]? with
  | none => builder.refuse (.builder (.notSet name))
  | some setting =>
      .done
        { builder with
          settings := builder.settings.insert name setting
          isModified := true }

def setPrefix (builder : Builder) (text : String) : Builder :=
  { builder with
    keyPrefix := withFinalPoint text
    isModified := true }

def addConverter (builder : Builder) (key : ConverterKey) (converter : Converter) : Builder :=
  { builder with
    overrides := (key, converter) :: builder.overrides
    isModified := true }

def withRegistry (builder : Builder) (id : RegistryId) : Builder :=
  { builder with registry? := some id }

def withFileSystem (builder : Builder) (fileSystem : FileSystem) : Builder :=
  { builder with fileSystem? := some fileSystem }

/-- Adds the settings that are read, with the message that they call for. -/
def load (builder : Builder) (reading : Reading Settings)
    (announced : Settings → List LogEvent) : CallResult Unit :=
  match reading.outcome with
  | .error error => ⟨builder, reading.events, .error (.file error)⟩
  | .ok settings =>
      ⟨builder.addSettings settings, reading.events ++ announced settings, .ok ()⟩

def loadFile (builder : Builder) (environment : Environment) (path : Path) : CallResult Unit :=
  builder.load (OptionsFile.parseFile (builder.fileSystem environment) path) fun settings =>
    [.loaded settings.size path.text]

def loadText (builder : Builder) (environment : Environment) (content : String)
    (directory? : Option Path) (source : String) : CallResult Unit :=
  builder.load (OptionsFile.parse (builder.fileSystem environment) content directory? source)
    fun _ => []

/-- Adds the settings of an application's option file, and tells whether there is one.  It is
looked for where the application keeps its files. -/
def loadDefault (builder : Builder) (environment : Environment)
    (qualifier application file : String) : CallResult Bool :=
  match environment.projectDirectory? qualifier application with
  | none => builder.refuse (.file (.unreadableFile ⟨file⟩ .noProjectDirectory))
  | some directory =>
      let path := directory.join ⟨file⟩
      match (builder.fileSystem environment).fileType? path with
      | none => ⟨builder, [.noFile path.text], .ok false⟩
      | some _ =>
          let loaded := builder.loadFile environment path
          { loaded with outcome := loaded.outcome.map fun _ => true }

/-- The settings that the configuration the builder started from lacks or has with another
value. -/
def suppliedNames (builder : Builder) : List String :=
  match builder.base? with
  | none => builder.settings.keys
  | some base =>
      builder.settings.keys.filter fun name =>
        base.settings.value? name ≠ builder.settings.value? name

/-- Opens or takes over the record of usage, in which the supplied settings are unused. -/
def openUsage (builder : Builder) (store : Store) : Store × UsageId :=
  match builder.base? with
  | none => (store.addUsage (Usage.empty.addUnused builder.suppliedNames), store.usages.nextId)
  | some base =>
      (store.setUsage base.usage ((store.usage base.usage).addUnused builder.suppliedNames),
        base.usage)

/-- The configuration before its own options are known. -/
def draft (builder : Builder) (store : Store) (usage : UsageId) : Configuration :=
  let registry := builder.registry?.getD Registries.globalId
  { Configuration.empty registry (store.registry registry).isSecure usage
      (builder.fileSystem store.environment) with
    settings := builder.settings
    keyPrefix := builder.keyPrefix
    overrides := builder.overrides }

end Builder

structure BuildResult where
  store : Store
  events : List LogEvent
  outcome : Except OptionError Configuration

namespace Builder

/-- Gives a configuration the converter for files that its options call for. -/
def placeFiles (store : Store) (config : Configuration) : BuildResult :=
  let (store, result) := store.inject config FileOptions.declaration .default none
  let outcome := match result.error? with
    | some error => .error error
    | none =>
        (FileConverter.create result.reached.target config.fileConverter.safe
          config.fileSystem).map fun fileConverter => { config with fileConverter }
  ⟨store, result.reached.events, outcome⟩

/-- Lets a configuration report used options if its options call for it. -/
def setReports (store : Store) (config : Configuration) : BuildResult :=
  let (store, result) := store.inject config ReportOptions.declaration .default none
  let outcome := match result.error? with
    | some error => .error error
    | none => .ok { config with exportsUsed := result.reached.target.exportsUsed }
  ⟨store, result.reached.events, outcome⟩

def build (builder : Builder) (store : Store) : BuildResult :=
  let (store, usage) := builder.openUsage store
  let placed := placeFiles store (builder.draft store usage)
  match placed.outcome with
  | .error _ => placed
  | .ok config =>
      let built := setReports placed.store config
      let last := match built.outcome with
        | .error _ => []
        | .ok config => [.built config.settings.size]
      { built with events := placed.events ++ built.events ++ last }

def afterBuild (builder : Builder) (result : BuildResult) : Builder :=
  match result.outcome with
  | .error _ => builder
  | .ok _ => empty

/-- Builds the configuration that the arguments of a command line call for. -/
def buildFromArguments (store : Store) (arguments : List String) : BuildResult :=
  match CommandLine.read arguments with
  | .error cause => ⟨store, [], .error (.argument cause)⟩
  | .ok settings => (empty.addSettings settings).build store

end Builder

end TypedOptions
