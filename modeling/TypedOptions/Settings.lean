import Std.Data.ExtTreeMap
import TypedOptions.Path.Basic

/-!
# Settings

A setting is the text given for an option together with where it was given.
The texts and the places are kept by option name in two tables, each in the
order of the names.  The tables are in step if they have the same names, and
every operation on settings keeps them in step.
-/

namespace TypedOptions

inductive OptionSource where
  | path (place : Path)
  | manual
  deriving DecidableEq, Repr

namespace OptionSource

def path? : OptionSource → Option Path
  | .path place => some place
  | .manual => none

def text : OptionSource → String
  | .path place => place.text
  | .manual => "manually set"

/-- Sources are the same place, however their paths are spelled. -/
def same : OptionSource → OptionSource → Bool
  | .path first, .path second => first.same second
  | .manual, .manual => true
  | _, _ => false

end OptionSource

structure Setting where
  value : String
  source : OptionSource
  deriving DecidableEq, Repr

/-- What is found under a name, with its source if there is one. -/
structure FoundValue where
  value : String
  source? : Option OptionSource
  deriving DecidableEq, Repr

structure Settings where
  values : Std.ExtTreeMap String String
  sources : Std.ExtTreeMap String OptionSource

namespace Settings

instance : EmptyCollection Settings :=
  ⟨⟨∅, ∅⟩⟩

instance : Membership String Settings :=
  ⟨fun settings name => name ∈ settings.values⟩

instance (name : String) (settings : Settings) : Decidable (name ∈ settings) :=
  inferInstanceAs (Decidable (name ∈ settings.values))

def value? (settings : Settings) (name : String) : Option String :=
  settings.values[name]?

def source? (settings : Settings) (name : String) : Option OptionSource :=
  settings.sources[name]?

def found? (settings : Settings) (name : String) : Option FoundValue :=
  (settings.value? name).map fun value => ⟨value, settings.source? name⟩

/-- A value without a source counts as set by hand. -/
instance : GetElem? Settings String Setting fun settings name => name ∈ settings where
  getElem settings name _ := ⟨settings.values[name], (settings.source? name).getD .manual⟩
  getElem? settings name :=
    (settings.value? name).map fun value => ⟨value, (settings.source? name).getD .manual⟩

def keys (settings : Settings) : List String :=
  settings.values.keys

def size (settings : Settings) : Nat :=
  settings.values.size

/-- The names with their values, in the order of the names. -/
def entries (settings : Settings) : List (String × String) :=
  settings.values.toList

def insert (settings : Settings) (name : String) (setting : Setting) : Settings :=
  ⟨settings.values.insert name setting.value, settings.sources.insert name setting.source⟩

def erase (settings : Settings) (name : String) : Settings :=
  ⟨settings.values.erase name, settings.sources.erase name⟩

/-- Adds the settings of `other`, which win. -/
def extend (settings other : Settings) : Settings :=
  ⟨settings.values ∪ other.values, settings.sources ∪ other.sources⟩

/-- The settings as if all of them had been given in one place. -/
def withSource (settings : Settings) (source : OptionSource) : Settings :=
  { settings with sources := settings.sources.map fun _ _ => source }

/-- The settings of a list, later ones winning. -/
def ofSettings (entries : List (String × Setting)) : Settings :=
  entries.foldl (fun settings (name, setting) => settings.insert name setting) ∅

/-- Settings are the same if their values are equal and their sources are the same places. -/
def same (first second : Settings) : Bool :=
  first.entries == second.entries && first.sources.keys == second.sources.keys &&
    first.sources.toList.all fun (name, source) => (second.source? name).any source.same

/-! ## Values -/

@[simp] theorem value?_empty (name : String) : (∅ : Settings).value? name = none :=
  Std.ExtTreeMap.getElem?_empty

theorem value?_insert (settings : Settings) (name other : String) (setting : Setting) :
    (settings.insert name setting).value? other =
      if name = other then some setting.value else settings.value? other := by
  simp only [value?, insert, Std.ExtTreeMap.getElem?_insert, Std.compare_eq_iff_eq]

theorem value?_erase (settings : Settings) (name other : String) :
    (settings.erase name).value? other =
      if name = other then none else settings.value? other := by
  simp only [value?, erase, Std.ExtTreeMap.getElem?_erase, Std.compare_eq_iff_eq]

theorem value?_extend (settings other : Settings) (name : String) :
    (settings.extend other).value? name = (other.value? name).or (settings.value? name) :=
  Std.ExtTreeMap.getElem?_union

@[simp] theorem value?_withSource (settings : Settings) (source : OptionSource) (name : String) :
    (settings.withSource source).value? name = settings.value? name :=
  rfl

theorem mem_iff_exists_value? {settings : Settings} {name : String} :
    name ∈ settings ↔ ∃ value, settings.value? name = some value := by
  rw [← Option.isSome_iff_exists]
  exact Std.ExtTreeMap.mem_iff_isSome_getElem?

@[simp] theorem not_mem_empty (name : String) : name ∉ (∅ : Settings) :=
  Std.ExtTreeMap.not_mem_empty

@[simp] theorem mem_insert {settings : Settings} {name other : String} {setting : Setting} :
    other ∈ settings.insert name setting ↔ name = other ∨ other ∈ settings := by
  rw [mem_iff_exists_value?, mem_iff_exists_value?, value?_insert]
  by_cases hname : name = other
  · simp [hname]
  · simp [hname]

theorem mem_keys {settings : Settings} {name : String} : name ∈ settings.keys ↔ name ∈ settings :=
  Std.ExtTreeMap.mem_keys

theorem mem_entries_iff {settings : Settings} {name value : String} :
    (name, value) ∈ settings.entries ↔ settings.value? name = some value :=
  Std.ExtTreeMap.mem_toList_iff_getElem?_eq_some

theorem nodup_entries (settings : Settings) : (settings.entries.map Prod.fst).Nodup := by
  have hdistinct : settings.entries.Pairwise fun entry other => ¬compare entry.1 other.1 = .eq :=
    Std.ExtTreeMap.distinct_keys_toList
  rw [List.Nodup, List.pairwise_map]
  exact hdistinct.imp fun hnames heq => hnames (Std.compare_eq_iff_eq.2 heq)

/-! ## Sources -/

@[simp] theorem source?_empty (name : String) : (∅ : Settings).source? name = none :=
  Std.ExtTreeMap.getElem?_empty

theorem source?_insert (settings : Settings) (name other : String) (setting : Setting) :
    (settings.insert name setting).source? other =
      if name = other then some setting.source else settings.source? other := by
  simp only [source?, insert, Std.ExtTreeMap.getElem?_insert, Std.compare_eq_iff_eq]

theorem source?_erase (settings : Settings) (name other : String) :
    (settings.erase name).source? other =
      if name = other then none else settings.source? other := by
  simp only [source?, erase, Std.ExtTreeMap.getElem?_erase, Std.compare_eq_iff_eq]

theorem source?_extend (settings other : Settings) (name : String) :
    (settings.extend other).source? name = (other.source? name).or (settings.source? name) :=
  Std.ExtTreeMap.getElem?_union

theorem source?_withSource (settings : Settings) (source : OptionSource) (name : String) :
    (settings.withSource source).source? name = (settings.source? name).map fun _ => source := by
  simp [source?, withSource, Std.ExtTreeMap.getElem?_map]

/-! ## Settings in step -/

/-- Every value has a source, and there is no source without a value. -/
def InStep (settings : Settings) : Prop :=
  ∀ name, name ∈ settings.values ↔ name ∈ settings.sources

theorem inStep_iff {settings : Settings} :
    settings.InStep ↔
      ∀ name, (settings.value? name).isSome = (settings.source? name).isSome := by
  refine forall_congr' fun name => ?_
  rw [Bool.eq_iff_iff, Std.ExtTreeMap.mem_iff_isSome_getElem?,
    Std.ExtTreeMap.mem_iff_isSome_getElem?]
  rfl

theorem inStep_empty : (∅ : Settings).InStep := by
  simp [inStep_iff]

namespace InStep

variable {settings other : Settings}

protected theorem insert (hsettings : settings.InStep) (name : String) (setting : Setting) :
    (settings.insert name setting).InStep := by
  rw [inStep_iff] at hsettings ⊢
  intro key
  rw [value?_insert, source?_insert]
  split
  · rfl
  · exact hsettings key

protected theorem erase (hsettings : settings.InStep) (name : String) :
    (settings.erase name).InStep := by
  rw [inStep_iff] at hsettings ⊢
  intro key
  rw [value?_erase, source?_erase]
  split
  · rfl
  · exact hsettings key

protected theorem extend (hsettings : settings.InStep) (hother : other.InStep) :
    (settings.extend other).InStep := by
  rw [inStep_iff] at hsettings hother ⊢
  intro key
  rw [value?_extend, source?_extend, Option.isSome_or, Option.isSome_or, hsettings, hother]

protected theorem withSource (hsettings : settings.InStep) (source : OptionSource) :
    (settings.withSource source).InStep := by
  rw [inStep_iff] at hsettings ⊢
  intro key
  rw [value?_withSource, source?_withSource, Option.isSome_map, hsettings]

theorem exists_source? (hsettings : settings.InStep) {name value : String}
    (hvalue : settings.value? name = some value) :
    ∃ source, settings.source? name = some source := by
  rw [← Option.isSome_iff_exists, ← inStep_iff.1 hsettings, hvalue]
  rfl

theorem source?_eq_none (hsettings : settings.InStep) {name : String}
    (hvalue : settings.value? name = none) : settings.source? name = none := by
  rw [← Option.not_isSome_iff_eq_none, ← inStep_iff.1 hsettings, hvalue]
  exact Bool.false_ne_true

end InStep

/-! ## Values with their sources -/

theorem found?_eq (settings : Settings) (name : String) :
    settings.found? name =
      (settings.value? name).map fun value => ⟨value, settings.source? name⟩ :=
  rfl

theorem isSome_found? (settings : Settings) (name : String) :
    (settings.found? name).isSome = true ↔ name ∈ settings := by
  rw [found?, Option.isSome_map, mem_iff_exists_value?, Option.isSome_iff_exists]

@[simp] theorem found?_eq_none_iff {settings : Settings} {name : String} :
    settings.found? name = none ↔ name ∉ settings := by
  rw [← isSome_found?, Option.not_isSome_iff_eq_none]

theorem found?_insert (settings : Settings) (name other : String) (setting : Setting) :
    (settings.insert name setting).found? other =
      if name = other then some ⟨setting.value, some setting.source⟩
      else settings.found? other := by
  rw [found?, value?_insert, source?_insert]
  split <;> rfl

/-! ## Settings by name -/

theorem getElem?_eq (settings : Settings) (name : String) :
    settings[name]? =
      (settings.value? name).map fun value => ⟨value, (settings.source? name).getD .manual⟩ :=
  rfl

theorem map_value_getElem? (settings : Settings) (name : String) :
    settings[name]?.map Setting.value = settings.value? name := by
  rw [getElem?_eq, Option.map_map]
  exact Option.map_id'

theorem isSome_getElem? (settings : Settings) (name : String) :
    settings[name]?.isSome = true ↔ name ∈ settings := by
  rw [getElem?_eq, Option.isSome_map, mem_iff_exists_value?, Option.isSome_iff_exists]

@[simp] theorem getElem?_eq_none_iff {settings : Settings} {name : String} :
    settings[name]? = none ↔ name ∉ settings := by
  rw [← isSome_getElem?, Option.not_isSome_iff_eq_none]

@[simp] theorem getElem?_empty (name : String) : (∅ : Settings)[name]? = none := by
  rw [getElem?_eq, value?_empty, Option.map_none]

theorem getElem?_insert (settings : Settings) (name other : String) (setting : Setting) :
    (settings.insert name setting)[other]? =
      if name = other then some setting else settings[other]? := by
  rw [getElem?_eq, value?_insert, source?_insert]
  split <;> rfl

theorem getElem?_erase (settings : Settings) (name other : String) :
    (settings.erase name)[other]? = if name = other then none else settings[other]? := by
  rw [getElem?_eq, value?_erase, source?_erase]
  split <;> rfl

theorem getElem?_extend (settings : Settings) {other : Settings} (hother : other.InStep)
    (name : String) : (settings.extend other)[name]? = other[name]?.or settings[name]? := by
  simp only [getElem?_eq, value?_extend, source?_extend]
  cases hvalue : other.value? name with
  | none => rw [hother.source?_eq_none hvalue, Option.none_or, Option.none_or, Option.map_none,
      Option.none_or]
  | some value =>
      obtain ⟨source, hsource⟩ := hother.exists_source? hvalue
      simp [hsource]

/-- Entries are put in one after the other; what a name comes to is what the last of its entries
gives. -/
theorem get_foldl {α β : Type} (get : Settings → String → Option β)
    (step : Settings → String × α → Settings) (given : α → β)
    (hstep : ∀ settings name item other,
      get (step settings (name, item)) other =
        if name = other then some (given item) else get settings other)
    (entries : List (String × α)) (settings : Settings) (name : String) :
    get (entries.foldl step settings) name =
      ((entries.reverse.lookup name).map given).or (get settings name) := by
  induction entries generalizing settings with
  | nil => rfl
  | cons entry rest ih =>
      obtain ⟨other, item⟩ := entry
      rw [List.foldl_cons, ih, List.reverse_cons, List.lookup_append, hstep]
      cases rest.reverse.lookup name with
      | some later => rfl
      | none =>
          by_cases hname : other = name
          · simp [hname]
          · have hbeq : (name == other) = false := by simpa using fun heq => hname heq.symm
            simp [hname, List.lookup_cons, hbeq]

theorem getElem?_foldl_insert (entries : List (String × Setting)) (settings : Settings)
    (name : String) :
    (entries.foldl (fun settings (name, setting) => settings.insert name setting)
        settings)[name]? =
      (entries.reverse.lookup name).or settings[name]? := by
  have hfold := get_foldl (fun settings name => settings[name]?)
    (fun settings entry => settings.insert entry.1 entry.2) id
    (fun settings name setting other => getElem?_insert settings name other setting)
    entries settings name
  rwa [Option.map_id_fun, id_eq] at hfold

theorem getElem?_ofSettings (entries : List (String × Setting)) (name : String) :
    (ofSettings entries)[name]? = entries.reverse.lookup name := by
  rw [ofSettings, getElem?_foldl_insert, getElem?_empty, Option.or_none]

/-- Both tables say of a name what the setting says, and nothing if there is none. -/
def Holds (settings : Settings) (name : String) (setting? : Option Setting) : Prop :=
  settings.value? name = setting?.map Setting.value ∧
    settings.source? name = setting?.map Setting.source

theorem Holds.getElem?_eq {settings : Settings} {name : String} {setting? : Option Setting}
    (hholds : settings.Holds name setting?) : settings[name]? = setting? := by
  rw [Settings.getElem?_eq, hholds.1, hholds.2]
  cases setting? <;> rfl

theorem InStep.holds {settings : Settings} (hsettings : settings.InStep) (name : String) :
    settings.Holds name settings[name]? := by
  refine ⟨(map_value_getElem? settings name).symm, ?_⟩
  rw [getElem?_eq]
  cases hvalue : settings.value? name with
  | none => exact hsettings.source?_eq_none hvalue
  | some value =>
      obtain ⟨source, hsource⟩ := hsettings.exists_source? hvalue
      rw [hsource]
      rfl

theorem empty_extend (settings : Settings) : extend ∅ settings = settings := by
  have hvalues : ∅ ∪ settings.values = settings.values :=
    Std.ExtTreeMap.ext_getElem? fun name => by
      rw [Std.ExtTreeMap.getElem?_union, Std.ExtTreeMap.getElem?_empty, Option.or_none]
  have hsources : ∅ ∪ settings.sources = settings.sources :=
    Std.ExtTreeMap.ext_getElem? fun name => by
      rw [Std.ExtTreeMap.getElem?_union, Std.ExtTreeMap.getElem?_empty, Option.or_none]
  change Settings.mk (∅ ∪ settings.values) (∅ ∪ settings.sources) = settings
  rw [hvalues, hsources]

/-! ## Settings that are put together -/

/-- Settings that came to be by the operations on settings alone, as those of a program do. -/
inductive Assembled : Settings → Prop where
  | empty : Assembled ∅
  | insert {settings : Settings} (hsettings : Assembled settings) (name : String)
      (setting : Setting) : Assembled (settings.insert name setting)
  | extend {settings other : Settings} (hsettings : Assembled settings)
      (hother : Assembled other) : Assembled (settings.extend other)
  | withSource {settings : Settings} (hsettings : Assembled settings) (source : OptionSource) :
      Assembled (settings.withSource source)

theorem Assembled.inStep {settings : Settings} (hsettings : settings.Assembled) :
    settings.InStep := by
  induction hsettings with
  | empty => exact inStep_empty
  | insert _ name setting ih => exact ih.insert name setting
  | extend _ _ ih hother => exact ih.extend hother
  | withSource _ source ih => exact ih.withSource source

theorem assembled_ofSettings (entries : List (String × Setting)) :
    (ofSettings entries).Assembled :=
  List.foldlRecOn entries _ .empty fun _ hsettings entry _ => hsettings.insert entry.1 entry.2

end Settings

end TypedOptions
