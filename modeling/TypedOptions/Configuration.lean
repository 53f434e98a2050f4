import TypedOptions.Registry
import TypedOptions.Settings
import TypedOptions.Usage

/-!
# Configurations

A configuration holds settings and what is needed to inject them.  With a
prefix in front of option names it is a view: a name is looked up with the
prefix first and then without it.  All keys that are asked for on the way to
a setting count as used.
-/

namespace TypedOptions

structure Configuration where
  settings : Settings
  /-- What is put in front of option names: nothing, or a text that ends in a point. -/
  keyPrefix : String
  /-- Converters that this configuration uses instead of those of the registry. -/
  overrides : ConverterTable
  fileConverter : FileConverter
  registry : RegistryId
  usage : UsageId
  fileSystem : FileSystem
  /-- Whether a message is sent for every option that is used. -/
  exportsUsed : Bool

/-- The text with a point at its end, unless it is empty or ends in one. -/
def withFinalPoint (text : String) : String :=
  if text.toList.getLast?.all (· == '.') then text else text ++ "."

namespace Settings

def findFirst? (settings : Settings) (keys : List String) : Option FoundValue :=
  keys.findSome? settings.found?

/-- The keys that are asked for until one is set. -/
def probes (settings : Settings) : List String → List String
  | [] => []
  | key :: rest => if key ∈ settings then [key] else key :: settings.probes rest

def dump (settings : Settings) : String :=
  String.join (settings.entries.map fun (key, value) => s!"{key} = {value}\n")

@[simp] theorem findFirst?_nil (settings : Settings) : settings.findFirst? [] = none :=
  rfl

theorem findFirst?_cons (settings : Settings) (key : String) (rest : List String) :
    settings.findFirst? (key :: rest) =
      (settings.found? key).or (settings.findFirst? rest) := by
  simp only [findFirst?, List.findSome?_cons]
  cases settings.found? key <;> rfl

@[simp] theorem probes_nil (settings : Settings) : settings.probes [] = [] :=
  rfl

theorem probes_subset (settings : Settings) (keys : List String) : settings.probes keys ⊆ keys := by
  induction keys with
  | nil => simp
  | cons key rest ih =>
      intro other hother
      simp only [probes] at hother
      split at hother
      · exact List.mem_cons.2 (Or.inl (List.mem_singleton.1 hother))
      · cases List.mem_cons.1 hother with
        | inl heq => exact List.mem_cons.2 (Or.inl heq)
        | inr hmem => exact List.mem_cons_of_mem _ (ih hmem)

end Settings

namespace Configuration

def empty (registry : RegistryId) (isSecure : Bool) (usage : UsageId) (fileSystem : FileSystem) :
    Configuration where
  settings := ∅
  keyPrefix := ""
  overrides := []
  fileConverter := .ofDefaults isSecure fileSystem
  registry := registry
  usage := usage
  fileSystem := fileSystem
  exportsUsed := false

/-- A view that looks names up below another prefix first.  It shares everything else. -/
def withPrefix (config : Configuration) (text : String) : Configuration :=
  { config with keyPrefix := withFinalPoint text }

/-- The keys of an option name, in the order in which they are looked up. -/
def keys (config : Configuration) (name : String) : List String :=
  if config.keyPrefix = "" then [name] else [config.keyPrefix ++ name, name]

def find? (config : Configuration) (name : String) : Option FoundValue :=
  config.settings.findFirst? (config.keys name)

def probes (config : Configuration) (name : String) : List String :=
  config.settings.probes (config.keys name)

/-- Whether a name is set.  Asking so does not count as use. -/
def has (config : Configuration) (name : String) : Bool :=
  (config.keys name).any fun key => key ∈ config.settings

def dump (config : Configuration) : String :=
  config.settings.dump

/-- The converter that the annotation of an option calls for. -/
def annotationConverter? (config : Configuration) (registry : Registry) (kind : AnnotationKind) :
    Option Converter :=
  (config.overrides.lookup (.annotated kind)).or
    (if kind = .file then some (.files config.fileConverter)
    else registry.converter? (.annotated kind))

def typeConverter? (config : Configuration) (registry : Registry) (key : TypeKey) :
    Option Converter :=
  (config.overrides.lookup (.type key)).or (registry.converter? (.type key))

/-- The converter of an option: that of the annotation before that of the type, and overrides
before those of the registry. -/
def converter (config : Configuration) (registry : Registry) (annotation? : Option Annotation)
    (key : TypeKey) : Converter :=
  let ofAnnotation? := annotation?.bind fun annotation =>
    config.annotationConverter? registry annotation.kind
  (ofAnnotation?.or (config.typeConverter? registry key)).getD .plain

theorem keys_of_keyPrefix_eq {config : Configuration} (name : String) (h : config.keyPrefix = "") :
    config.keys name = [name] := by
  simp [keys, h]

theorem keys_of_keyPrefix_ne {config : Configuration} (name : String) (h : config.keyPrefix ≠ "") :
    config.keys name = [config.keyPrefix ++ name, name] := by
  simp [keys, h]

theorem find?_eq_or (config : Configuration) (name : String) :
    config.find? name =
      (config.settings.found? (config.keyPrefix ++ name)).or (config.settings.found? name) := by
  by_cases hprefix : config.keyPrefix = ""
  · rw [find?, keys_of_keyPrefix_eq name hprefix, Settings.findFirst?_cons,
      Settings.findFirst?_nil, Option.or_none, hprefix, String.empty_append, Option.or_self]
  · rw [find?, keys_of_keyPrefix_ne name hprefix, Settings.findFirst?_cons,
      Settings.findFirst?_cons, Settings.findFirst?_nil, Option.or_none]

@[simp] theorem converter_no_annotation (config : Configuration) (registry : Registry)
    (key : TypeKey) :
    config.converter registry none key = (config.typeConverter? registry key).getD .plain :=
  rfl

end Configuration

example : withFinalPoint "" = "" ∧ withFinalPoint "a" = "a." ∧ withFinalPoint "a." = "a." := by
  decide

end TypedOptions
