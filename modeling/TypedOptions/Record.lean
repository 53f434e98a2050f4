import TypedOptions.Declaration.Basic

/-!
# Objects put together at run time

A record has members of types that need not be known before the program
runs.  A member is a field that holds a value, or a setter that keeps the
last value it took and counts its calls.
-/

namespace TypedOptions

inductive MemberKind where
  | field
  /-- A setter, which may refuse a value. -/
  | setter (refuse : Value → Option Refusal)

structure Member where
  type : FieldType
  kind : MemberKind

namespace Member

/-- What an object holds for a member. -/
def Content : Member → Type
  | ⟨type, .field⟩ => type.Carrier
  | ⟨type, .setter _⟩ => Option type.Carrier × Nat

/-- The content before any injection: a field holds its default. -/
def initial? : (member : Member) → Value → Option member.Content
  | ⟨type, .field⟩, value => type.ofValue? value
  | ⟨_, .setter _⟩, _ => some (none, 0)

/-- The value that is held, and for a setter the number of calls. -/
def shown : (member : Member) → member.Content → Option Value × Option Nat
  | ⟨type, .field⟩, value => (some (type.toValue value), none)
  | ⟨type, .setter _⟩, (last?, calls) => (last?.map type.toValue, some calls)

/-- How objects take values of a member that is read and written by `get` and `put`. -/
def access {τ : Type} : (member : Member) → (get : τ → member.Content) →
    (put : member.Content → τ → τ) → Access τ member.type
  | ⟨_, .field⟩, get, put => .field get put
  | ⟨type, .setter refuse⟩, get, put =>
      .setter fun value target =>
        let (last?, calls) := get target
        match refuse (type.toValue value) with
        | none => (put (some value, calls + 1) target, none)
        | some refusal => (put (last?, calls + 1) target, some refusal)

end Member

def Record (members : List Member) : Type :=
  (index : Fin members.length) → (members.get index).Content

namespace Record

variable {members : List Member}

def get (index : Fin members.length) (record : Record members) : (members.get index).Content :=
  record index

def put (index : Fin members.length) (content : (members.get index).Content)
    (record : Record members) : Record members :=
  fun other => if h : other = index then h ▸ content else record other

/-- The record whose fields hold the given values, if these have the right shapes. -/
def ofValues? : (members : List Member) → List Value → Option (Record members)
  | [], _ => some fun index => index.elim0
  | _ :: _, [] => none
  | member :: rest, value :: values => do
      let content ← member.initial? value
      let record ← ofValues? rest values
      return Fin.cases content record

def access (members : List Member) (index : Fin members.length) :
    Access (Record members) (members.get index).type :=
  (members.get index).access (get index) (put index)

def shown (record : Record members) : List (Option Value × Option Nat) :=
  (List.finRange members.length).map fun index => (members.get index).shown (record index)

@[simp] theorem get_put_self (index : Fin members.length) (content : (members.get index).Content)
    (record : Record members) : (record.put index content).get index = content := by
  simp [get, put]

theorem get_put_of_ne {index other : Fin members.length} (content : (members.get index).Content)
    (record : Record members) (h : other ≠ index) :
    (record.put index content).get other = record.get other := by
  simp [get, put, h]

end Record

end TypedOptions
