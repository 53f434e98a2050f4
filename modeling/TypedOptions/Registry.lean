import TypedOptions.Converter.Basic

/-!
# Registries

A registry holds the converters for types and annotations, the classes that
options can name, and the switch of secure mode, which is never turned off
again.  Registries are known by name and come into being when they are first
named, with the built-in converters and without classes.  All of them search
for expressions with one and the same engine.
-/

namespace TypedOptions

/-- Converters by what they are for; the first one for a key counts. -/
abbrev ConverterTable := List (ConverterKey × Converter)

structure Registry where
  converters : ConverterTable
  catalog : ClassCatalog
  isSecure : Bool

namespace Registry

def builtInConverters (id : RegistryId) : ConverterTable :=
  [(.annotated .integer, .integer), (.annotated .timeSpan, .timeSpan),
    (.annotated .classes, .classes id), (.type .classRef, .classes id),
    (.type .factory, .classes id)]

def initial (id : RegistryId) : Registry :=
  ⟨builtInConverters id, ∅, false⟩

def converter? (registry : Registry) (key : ConverterKey) : Option Converter :=
  registry.converters.lookup key

/-- Registers a converter in place of an earlier one for the key. -/
def register (registry : Registry) (key : ConverterKey) (converter : Converter) : Registry :=
  { registry with converters := (key, converter) :: registry.converters }

def registerClass (registry : Registry) (entry : RegisteredClass) : Registry :=
  { registry with catalog := registry.catalog.register entry }

def enableSecure (registry : Registry) : Registry :=
  { registry with isSecure := true }

theorem converter?_register (registry : Registry) (key other : ConverterKey)
    (converter : Converter) :
    (registry.register key converter).converter? other =
      if other = key then some converter else registry.converter? other := by
  by_cases h : other = key
  · simp [register, converter?, h]
  · have hbeq : (other == key) = false := by simpa using h
    simp [register, converter?, List.lookup_cons, h, hbeq]

@[simp] theorem converter?_registerClass (registry : Registry) (entry : RegisteredClass)
    (key : ConverterKey) :
    (registry.registerClass entry).converter? key = registry.converter? key :=
  rfl

@[simp] theorem isSecure_enableSecure (registry : Registry) :
    registry.enableSecure.isSecure = true :=
  rfl

end Registry

structure Registries where
  named : Std.ExtTreeMap RegistryId Registry
  sizeLimit : Regex.SizeLimit

namespace Registries

/-- The registry of configurations that name no other. -/
def globalId : RegistryId := "global"

def empty (sizeLimit : Regex.SizeLimit) : Registries :=
  ⟨∅, sizeLimit⟩

def get (registries : Registries) (id : RegistryId) : Registry :=
  registries.named[id]?.getD (.initial id)

def set (registries : Registries) (id : RegistryId) (registry : Registry) : Registries :=
  { registries with named := registries.named.insert id registry }

def catalogs (registries : Registries) (id : RegistryId) : ClassCatalog :=
  (registries.get id).catalog

def resources (registries : Registries) : Resources :=
  ⟨registries.catalogs, registries.sizeLimit⟩

theorem get_set (registries : Registries) (id other : RegistryId) (registry : Registry) :
    (registries.set id registry).get other =
      if id = other then registry else registries.get other := by
  by_cases h : id = other <;> simp [get, set, Std.ExtTreeMap.getElem?_insert, h]

end Registries

end TypedOptions
