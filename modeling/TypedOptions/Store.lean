import TypedOptions.Injection.Basic

/-!
# What configurations share

Registries and the records of usage outlive the configurations that refer to
them.  The disk, the directories of applications and the engine for
expressions are what a program finds where it runs.
-/

namespace TypedOptions

/-- What a program finds where it runs. -/
structure Environment where
  disk : DiskFiles
  /-- Where an application keeps its option files, given its qualifier and its name, if that can be
  found out. -/
  projectDirectory? : String → String → Option Path
  sizeLimit : Regex.SizeLimit

/-- An environment that knows no directories of applications and takes expressions of any size. -/
def Environment.ofDisk (disk : DiskFiles) : Environment :=
  ⟨disk, fun _ _ => none, fun _ => true⟩

structure Store where
  environment : Environment
  registries : Registries
  usages : UsageRecords

namespace Store

def initial (environment : Environment) : Store :=
  ⟨environment, .empty environment.sizeLimit, .empty⟩

def registry (store : Store) (id : RegistryId) : Registry :=
  store.registries.get id

def setRegistry (store : Store) (id : RegistryId) (registry : Registry) : Store :=
  { store with registries := store.registries.set id registry }

def usage (store : Store) (id : UsageId) : Usage :=
  store.usages.get id

def setUsage (store : Store) (id : UsageId) (usage : Usage) : Store :=
  { store with usages := store.usages.set id usage }

def addUsage (store : Store) (usage : Usage) : Store :=
  { store with usages := store.usages.add usage }

def register (store : Store) (id : RegistryId) (key : ConverterKey) (converter : Converter) :
    Store × List LogEvent :=
  (store.setRegistry id ((store.registry id).register key converter), [.registering key])

def registerClass (store : Store) (id : RegistryId) (entry : RegisteredClass) : Store :=
  store.setRegistry id ((store.registry id).registerClass entry)

/-- Turns secure mode on, which is reported once. -/
def enableSecure (store : Store) (id : RegistryId) : Store × List LogEvent :=
  (store.setRegistry id (store.registry id).enableSecure,
    if (store.registry id).isSecure then [] else [.secureMode])

/-- A configuration without settings, for the registry of all that name no other. -/
def defaultConfiguration (store : Store) : Store × Configuration :=
  (store.addUsage .empty,
    .empty Registries.globalId (store.registry Registries.globalId).isSecure store.usages.nextId
      (.disk store.environment.disk))

/-- The value of a name, which counts as used from now on. -/
def value? (store : Store) (config : Configuration) (name : String) : Store × Option String :=
  (store.setUsage config.usage ((store.usage config.usage).markAllUsed (config.probes name)),
    (config.find? name).map FoundValue.value)

def inject {τ : Type} (store : Store) (config : Configuration) (declaration : Declaration τ)
    (target : τ) (defaults? : Option τ) : Store × InjectionResult τ :=
  let result := (Injection.start target (store.usage config.usage)).injectAll
    ⟨config, store.registries⟩ declaration defaults?
  (store.setUsage config.usage result.reached.usage, result)

@[simp] theorem registries_inject {τ : Type} (store : Store) (config : Configuration)
    (declaration : Declaration τ) (target : τ) (defaults? : Option τ) :
    (store.inject config declaration target defaults?).1.registries = store.registries :=
  rfl

@[simp] theorem registries_value? (store : Store) (config : Configuration) (name : String) :
    (store.value? config name).1.registries = store.registries :=
  rfl

theorem registry_setRegistry (store : Store) (id other : RegistryId) (registry : Registry) :
    (store.setRegistry id registry).registry other =
      if id = other then registry else store.registry other :=
  Registries.get_set ..

end Store

end TypedOptions
