import Std.Data.ExtTreeMap
import Std.Data.ExtTreeSet
import TypedOptions.Text.Quoted

/-!
# Classes that options can name

A class is registered under its full name together with the names of its
supertypes and with factories.  A factory is known by the interface it
belongs to and yields a fixed product.  A later registration of a name takes
the place of the earlier one.
-/

namespace TypedOptions

/-- What a factory makes, known by name. -/
structure Interface where
  name : String
  deriving DecidableEq, Repr

structure RegisteredClass where
  name : String
  supertypes : List String
  factories : List (Interface × Nat)
  deriving DecidableEq, Repr

namespace RegisteredClass

/-- A class that implements nothing and has no factories. -/
def ofName (name : String) : RegisteredClass :=
  ⟨name, [], []⟩

/-- Declares a supertype of the class. -/
def implementing (entry : RegisteredClass) (supertype : String) : RegisteredClass :=
  { entry with supertypes := entry.supertypes.insert supertype }

/-- Gives the class a factory, in place of an earlier one for the interface. -/
def withFactory (entry : RegisteredClass) (interface : Interface) (product : Nat) :
    RegisteredClass :=
  { entry with
    factories := (interface, product) :: entry.factories.filter fun factory =>
      factory.1 ≠ interface }

/-- A class is a subtype of itself and of what it is declared to implement. -/
def isSubtypeOf (entry : RegisteredClass) (supertype : String) : Bool :=
  entry.name == supertype || entry.supertypes.contains supertype

def product? (entry : RegisteredClass) (interface : Interface) : Option Nat :=
  entry.factories.lookup interface

/-- Classes are told apart by their names alone. -/
def same (first second : RegisteredClass) : Bool :=
  first.name == second.name

/-- The entry with its supertypes in order and the number of its factories. -/
def description (entry : RegisteredClass) : String :=
  let supertypes := (Std.ExtTreeSet.ofList entry.supertypes).toList
  "RegisteredClass \x7b name: " ++ Text.quote entry.name ++ ", supertypes: " ++
    Text.quoteList '\x7b' '\x7d' supertypes ++ s!", factories: {entry.factories.length} \x7d"

@[simp] theorem name_implementing (entry : RegisteredClass) (supertype : String) :
    (entry.implementing supertype).name = entry.name :=
  rfl

@[simp] theorem name_withFactory (entry : RegisteredClass) (interface : Interface)
    (product : Nat) : (entry.withFactory interface product).name = entry.name :=
  rfl

theorem isSubtypeOf_ofName (name supertype : String) :
    (ofName name).isSubtypeOf supertype = true ↔ name = supertype := by
  simp [isSubtypeOf, ofName]

theorem isSubtypeOf_implementing (entry : RegisteredClass) (declared supertype : String) :
    (entry.implementing declared).isSubtypeOf supertype = true ↔
      supertype = declared ∨ entry.isSubtypeOf supertype = true := by
  simp only [isSubtypeOf, implementing, Bool.or_eq_true, beq_iff_eq, List.contains_iff_mem,
    List.mem_insert_iff]
  exact or_left_comm

@[simp] theorem isSubtypeOf_withFactory (entry : RegisteredClass) (interface : Interface)
    (product : Nat) (supertype : String) :
    (entry.withFactory interface product).isSubtypeOf supertype = entry.isSubtypeOf supertype :=
  rfl

@[simp] theorem product?_implementing (entry : RegisteredClass) (supertype : String)
    (interface : Interface) :
    (entry.implementing supertype).product? interface = entry.product? interface :=
  rfl

theorem lookup_filter_ne {interface other : Interface} (hne : other ≠ interface)
    (factories : List (Interface × Nat)) :
    (factories.filter fun factory => factory.1 ≠ interface).lookup other =
      factories.lookup other := by
  induction factories with
  | nil => rfl
  | cons factory rest ih =>
      obtain ⟨first, product⟩ := factory
      by_cases hfirst : first = interface
      · have hbeq : (other == first) = false := by simpa [hfirst] using hne
        rw [List.filter_cons_of_neg (by simpa using hfirst), List.lookup_cons, hbeq, ih]
      · rw [List.filter_cons_of_pos (by simpa using hfirst), List.lookup_cons, List.lookup_cons, ih]

theorem product?_withFactory (entry : RegisteredClass) (interface other : Interface)
    (product : Nat) :
    (entry.withFactory interface product).product? other =
      if other = interface then some product else entry.product? other := by
  by_cases h : other = interface
  · simp [product?, withFactory, h]
  · have hbeq : (other == interface) = false := by simpa using h
    rw [if_neg h, product?, withFactory, List.lookup_cons, hbeq]
    exact lookup_filter_ne h entry.factories

end RegisteredClass

/-- A class that is known to have a factory for an interface. -/
structure Factory (interface : Interface) where
  entry : RegisteredClass
  product : Nat
  product?_eq : entry.product? interface = some product

namespace Factory

def ofClass? {interface : Interface} (entry : RegisteredClass) : Option (Factory interface) :=
  match h : entry.product? interface with
  | some product => some ⟨entry, product, h⟩
  | none => none

def description {interface : Interface} (factory : Factory interface) : String :=
  "Factory(" ++ Text.quote factory.entry.name ++ ")"

theorem ofClass?_entry {interface : Interface} (factory : Factory interface) :
    ofClass? factory.entry = some factory := by
  unfold ofClass?
  split
  · rename_i product h
    have heq : product = factory.product := Option.some.inj (h.symm.trans factory.product?_eq)
    subst heq
    rfl
  · rename_i h
    exact absurd (h.symm.trans factory.product?_eq) (by simp)

theorem entry_of_ofClass? {interface : Interface} {entry : RegisteredClass}
    {factory : Factory interface} (h : ofClass? entry = some factory) : factory.entry = entry := by
  unfold ofClass? at h
  split at h
  · cases h
    rfl
  · cases h

end Factory

/-- The registered classes by name. -/
abbrev ClassCatalog := Std.ExtTreeMap String RegisteredClass

namespace ClassCatalog

def register (catalog : ClassCatalog) (entry : RegisteredClass) : ClassCatalog :=
  catalog.insert entry.name entry

def findFirst? (catalog : ClassCatalog) (names : List String) : Option RegisteredClass :=
  names.findSome? fun name => catalog[name]?

theorem getElem?_register (catalog : ClassCatalog) (entry : RegisteredClass) (name : String) :
    (catalog.register entry)[name]? = if entry.name = name then some entry else catalog[name]? := by
  simp [register, Std.ExtTreeMap.getElem?_insert]

end ClassCatalog

end TypedOptions
