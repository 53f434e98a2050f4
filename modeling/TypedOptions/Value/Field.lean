import TypedOptions.Value.Bag
import TypedOptions.Value.Basic
import TypedOptions.Value.Type

/-!
# Typed fields

A field of a program holds a typed value: an element, perhaps one that may
be missing, or a collection to any depth.  Every type of fields comes with a
way from typed to dynamic values and a partial way back.
-/

namespace TypedOptions

/-- A type of fields: how its values are compared and how they become dynamic. -/
structure FieldModel where
  Carrier : Type
  /-- What counts as a repetition in a set. -/
  same : Carrier → Carrier → Bool
  /-- The order of sorted collections. -/
  order : Carrier → Carrier → Ordering
  transCmp : Std.TransCmp order
  toValue : Carrier → Value
  ofValue? : Value → Option Carrier

namespace FieldModel

instance (model : FieldModel) : Std.TransCmp model.order :=
  model.transCmp

/-- A type whose values are compared by a key. -/
def ofKey {α β : Type} [BEq α] [Ord β] [Std.TransOrd β] (key : α → β) (toValue : α → Value)
    (ofValue? : Value → Option α) : FieldModel where
  Carrier := α
  same := (· == ·)
  order := compareOn key
  transCmp := inferInstance
  toValue := toValue
  ofValue? := ofValue?

theorem transCmp_comap {α β : Type} {order : β → β → Ordering} [Std.TransCmp order]
    (view : α → β) : Std.TransCmp fun first second => order (view first) (view second) where
  eq_swap {first second} := @Std.OrientedCmp.eq_swap _ order _ (view first) (view second)
  isLE_trans {first second third} :=
    @Std.TransCmp.isLE_trans _ order _ (view first) (view second) (view third)

/-- Orders by a list of values of another type. -/
def orderByList {α : Type} (model : FieldModel) (view : α → List model.Carrier) :
    α → α → Ordering :=
  fun first second => List.compareLex model.order (view first) (view second)

theorem transCmp_orderByList {α : Type} (model : FieldModel) (view : α → List model.Carrier) :
    Std.TransCmp (orderByList model view) :=
  @transCmp_comap _ _ (List.compareLex model.order) _ view

def sameItems (model : FieldModel) : List model.Carrier → List model.Carrier → Bool
  | [], [] => true
  | first :: rest, second :: more => model.same first second && sameItems model rest more
  | _, _ => false

/-- All items as dynamic values, and back. -/
def collectionOf (model : FieldModel) (items : List model.Carrier) : Value :=
  .collection (items.map model.toValue)

def itemsOf? (model : FieldModel) : Value → Option (List model.Carrier)
  | .collection items => items.mapM model.ofValue?
  | _ => none

/-- The type with one more value, which stands for no value. -/
def nullable (model : FieldModel) : FieldModel where
  Carrier := Option model.Carrier
  same first second := sameItems model first.toList second.toList
  order := orderByList model Option.toList
  transCmp := transCmp_orderByList model Option.toList
  toValue value := value.elim .absent model.toValue
  ofValue?
    | .absent => some none
    | value => (model.ofValue? value).map some

def list (model : FieldModel) : FieldModel where
  Carrier := List model.Carrier
  same := sameItems model
  order := orderByList model id
  transCmp := transCmp_orderByList model id
  toValue := collectionOf model
  ofValue? := itemsOf? model

def set (model : FieldModel) : FieldModel where
  Carrier := DistinctList model.Carrier model.same
  same first second := sameItems model first.toList second.toList
  order := orderByList model DistinctList.toList
  transCmp := transCmp_orderByList model DistinctList.toList
  toValue items := collectionOf model items.toList
  ofValue? value := (itemsOf? model value).map DistinctList.ofList

def sortedSet (model : FieldModel) : FieldModel where
  Carrier := SortedList model.Carrier model.order
  same first second := sameItems model first.toList second.toList
  order := orderByList model SortedList.toList
  transCmp := transCmp_orderByList model SortedList.toList
  toValue items := collectionOf model items.toList
  ofValue? value := (itemsOf? model value).map SortedList.ofList

def bag (model : FieldModel) : FieldModel where
  Carrier := Bag model.Carrier model.order
  same first second := sameItems model first.toList second.toList
  order := orderByList model Bag.toList
  transCmp := transCmp_orderByList model Bag.toList
  toValue items := collectionOf model items.toList
  ofValue? value := (itemsOf? model value).map Bag.ofList

/-- Paths are compared by components. -/
def path : FieldModel where
  Carrier := Path
  same := Path.same
  order := Path.order
  transCmp := inferInstanceAs (Std.TransCmp Path.order)
  toValue := .path
  ofValue?
    | .path value => some value
    | _ => none

/-- Doubles are compared numerically; their order is that of their bits. -/
def double : FieldModel where
  Carrier := Double
  same := Double.equals
  order := compareOn fun value => value.bits.toNat
  transCmp := inferInstance
  toValue := .double
  ofValue?
    | .double value => some value
    | _ => none

/-- Classes are compared by name. -/
def classRef : FieldModel where
  Carrier := RegisteredClass
  same := RegisteredClass.same
  order := compareOn RegisteredClass.name
  transCmp := inferInstance
  toValue := .classRef
  ofValue?
    | .classRef entry => some entry
    | _ => none

def factory (interface : Interface) : FieldModel where
  Carrier := Factory interface
  same first second := first.entry.same second.entry
  order := compareOn fun factory => factory.entry.name
  transCmp := inferInstance
  toValue value := .classRef value.entry
  ofValue?
    | .classRef entry => Factory.ofClass? entry
    | _ => none

/-- The constants of an enumeration, in the order of their declaration. -/
def enumeration (constants : Enumeration) : FieldModel :=
  ofKey (fun index : Fin constants.constants.length => index.val)
    (fun index => .constant constants.constants[index])
    (fun
      | .constant name => constants.constants.finIdxOf? name
      | _ => none)

end FieldModel

inductive FieldType where
  | element (type : ElementType)
  | nullable (type : FieldType)
  | list (type : FieldType)
  | array (type : FieldType)
  | set (type : FieldType)
  | sortedSet (type : FieldType)
  | bag (type : FieldType)
  deriving DecidableEq, Repr

/-- The model of an element type.  A bound on a class is no part of it. -/
def ElementType.model : ElementType → FieldModel
  | .bool => .ofKey id .bool fun
      | .bool value => some value
      | _ => none
  | .int => .ofKey Int32.toInt .int fun
      | .int value => some value
      | _ => none
  | .long => .ofKey Int64.toInt .long fun
      | .long value => some value
      | _ => none
  | .double => .double
  | .string => .ofKey id .string fun
      | .string value => some value
      | _ => none
  | .enumeration constants => .enumeration constants
  | .charset => .ofKey Charset.name .charset fun
      | .charset value => some value
      | _ => none
  | .level => .ofKey LogLevel.rank .level fun
      | .level value => some value
      | _ => none
  | .pattern => .ofKey Pattern.text .pattern fun
      | .pattern value => some value
      | _ => none
  | .rational => .ofKey Rational.toText .rational fun
      | .rational value => some value
      | _ => none
  | .timeSpan => .ofKey TimeSpan.toText .timeSpan fun
      | .timeSpan value => some value
      | _ => none
  | .path => .path
  | .pathTemplate => .ofKey PathTemplate.text .pathTemplate fun
      | .pathTemplate value => some value
      | _ => none
  | .classRef _ => .classRef
  | .factory interface => .factory interface

namespace FieldType

def model : FieldType → FieldModel
  | .element type => type.model
  | .nullable type => type.model.nullable
  | .list type => type.model.list
  | .array type => type.model.list
  | .set type => type.model.set
  | .sortedSet type => type.model.sortedSet
  | .bag type => type.model.bag

abbrev Carrier (type : FieldType) : Type :=
  type.model.Carrier

def toValue (type : FieldType) (value : type.Carrier) : Value :=
  type.model.toValue value

/-- The typed value that a dynamic value stands for, if it has the right shape. -/
def ofValue? (type : FieldType) (value : Value) : Option type.Carrier :=
  type.model.ofValue? value

/-- The declared type of an option of this type; that a value may be missing is not part of it. -/
def optionType : FieldType → OptionType
  | .element type => .element type
  | .nullable type => type.optionType
  | .list type => .collection .list type.optionType
  | .array type => .collection .array type.optionType
  | .set type => .collection .set type.optionType
  | .sortedSet type =>
      .collection (if type.optionType.isEnumeration then .enumSet else .sortedSet) type.optionType
  | .bag type => .collection .multiset type.optionType

def isNullable : FieldType → Bool
  | .nullable _ => true
  | _ => false

@[simp] theorem optionType_nullable (type : FieldType) :
    (FieldType.nullable type).optionType = type.optionType :=
  rfl

end FieldType

end TypedOptions
