import TypedOptions.ClassCatalog
import TypedOptions.Key

/-!
# Types of options

An option holds an element or a collection of elements.  The type tells
which converter may serve and what a converter is asked to produce.
-/

namespace TypedOptions

/-- An enumeration with its constants in the order of their declaration. -/
structure Enumeration where
  name : String
  constants : List String
  deriving DecidableEq, Repr

inductive ElementType where
  | bool
  | int
  | long
  | double
  | string
  | enumeration (constants : Enumeration)
  | charset
  | level
  | pattern
  | rational
  | timeSpan
  | path
  | pathTemplate
  /-- A class, perhaps one that has to be a subtype of `bound?`. -/
  | classRef (bound? : Option String)
  | factory (interface : Interface)
  deriving DecidableEq, Repr

inductive CollectionKind where
  | array
  | list
  | set
  | sortedSet
  | enumSet
  | multiset
  deriving DecidableEq, Repr

namespace CollectionKind

def name : CollectionKind → String
  | .array => "Array"
  | .list => "List"
  | .set => "Set"
  | .sortedSet => "SortedSet"
  | .enumSet => "EnumSet"
  | .multiset => "Multiset"

/-- Whether the collection holds an element at most once. -/
def dropsDuplicates : CollectionKind → Bool
  | .set => true
  | .sortedSet => true
  | .enumSet => true
  | _ => false

end CollectionKind

inductive OptionType where
  | element (type : ElementType)
  | collection (kind : CollectionKind) (items : OptionType)
  deriving DecidableEq, Repr

namespace ElementType

def key : ElementType → TypeKey
  | .bool => .bool
  | .int => .int
  | .long => .long
  | .double => .double
  | .string => .string
  | .enumeration _ => .enumeration
  | .charset => .charset
  | .level => .level
  | .pattern => .pattern
  | .rational => .rational
  | .timeSpan => .timeSpan
  | .path => .path
  | .pathTemplate => .pathTemplate
  | .classRef _ => .classRef
  | .factory _ => .factory

/-- The type as messages about declarations spell it.  Interfaces have no identity to show. -/
def description : ElementType → String
  | .enumeration constants =>
      "Enum \x7b name: " ++ Text.quote constants.name ++ ", variants: " ++
        Text.quoteList '[' ']' constants.constants ++ " \x7d"
  | .classRef none => "Class \x7b bound: None \x7d"
  | .classRef (some bound) => "Class \x7b bound: Some(" ++ Text.quote bound ++ ") \x7d"
  | .factory interface =>
      "Factory \x7b interface: TypeId(_), interface_name: " ++ Text.quote interface.name ++ " \x7d"
  | type => type.key.name

end ElementType

namespace OptionType

def key : OptionType → TypeKey
  | .element type => type.key
  | .collection _ _ => .collection

/-- The type of the elements of a collection, otherwise the type itself. -/
def elementType : OptionType → OptionType
  | .collection _ items => items
  | type => type

def collectionKind? : OptionType → Option CollectionKind
  | .collection kind _ => some kind
  | _ => none

def isEnumeration : OptionType → Bool
  | .element (.enumeration _) => true
  | _ => false

def description : OptionType → String
  | .element type => type.description
  | .collection kind items =>
      "Collection \x7b kind: " ++ kind.name ++ ", element: " ++ items.description ++ " \x7d"

/-- Bounds a class type, or the class type of the elements of a collection. -/
def withBound (type : OptionType) (bound : String) : OptionType :=
  match type with
  | .element (.classRef _) => .element (.classRef (some bound))
  | .collection kind (.element (.classRef _)) => .collection kind (.element (.classRef (some bound)))
  | type => type

end OptionType

end TypedOptions
