import TypedOptions.Text.Lines

/-!
# File paths

A path keeps the text it was built from.  Two paths are the same place when
their components agree, so doubled and final slashes and points inside a
path do not count; a leading point does.
-/

namespace TypedOptions

structure Path where
  text : String
  deriving DecidableEq, Repr

namespace Path

inductive Component where
  | root
  | current
  | parent
  | name (text : String)
  deriving DecidableEq, Repr

/-- Components of different kinds are ordered by kind. -/
def Component.rank : Component → Nat
  | .root => 0
  | .current => 1
  | .parent => 2
  | .name _ => 3

def Component.nameText : Component → String
  | .name text => text
  | _ => ""

/-- By kind, names of places by their text. -/
def Component.order : Component → Component → Ordering :=
  compareLex (compareOn Component.rank) (compareOn Component.nameText)

instance : Std.TransCmp Component.order :=
  inferInstanceAs (Std.TransCmp (compareLex (compareOn Component.rank) (compareOn Component.nameText)))

/-- What a piece between slashes stands for behind the first place. -/
def component? : List Char → Option Component
  | [] => none
  | ['.'] => none
  | ['.', '.'] => some .parent
  | piece => some (.name (String.ofList piece))

def isAbsolute (path : Path) : Bool :=
  path.text.toList.head? == some '/'

def components (path : Path) : List Component :=
  match Text.splitAll '/' path.text.toList with
  | [] => []
  | [[]] => []
  | [] :: rest => .root :: rest.filterMap component?
  | ['.'] :: rest => .current :: rest.filterMap component?
  | pieces => pieces.filterMap component?

def same (first second : Path) : Bool :=
  first.components == second.components

def order (first second : Path) : Ordering :=
  List.compareLex Component.order first.components second.components

instance : Std.TransCmp order where
  eq_swap {first second} :=
    @Std.OrientedCmp.eq_swap _ (List.compareLex Component.order) _ first.components
      second.components
  isLE_trans {first second third} :=
    @Std.TransCmp.isLE_trans _ (List.compareLex Component.order) _ first.components
      second.components third.components

def endsWithSlash (path : Path) : Bool :=
  path.text.toList.getLast? == some '/'

/-- The place `path` as seen from `base`.  An absolute path stays as it is; joining the empty path
only adds a final slash. -/
def join (base path : Path) : Path :=
  if path.isAbsolute then path
  else if base.text = "" || base.endsWithSlash then ⟨base.text ++ path.text⟩
  else ⟨base.text ++ "/" ++ path.text⟩

/-- Whether a piece at the end of a path is no component of its own. -/
def isFiller (piece : List Char) : Bool :=
  piece == [] || piece == ['.']

def dropFillers (pieces : List (List Char)) : List (List Char) :=
  (pieces.reverse.dropWhile isFiller).reverse

def joinPieces (pieces : List (List Char)) : List Char :=
  List.intercalate ['/'] pieces

/-- The beginning that is kept by all operations, a slash or a leading point, and the rest. -/
def splitStart : List Char → List Char × List Char
  | '/' :: rest => (['/'], rest)
  | ['.'] => (['.'], [])
  | '.' :: '/' :: rest => (['.'], '/' :: rest)
  | text => ([], text)

/-- The path without its last component; the root and the empty path have no parent. -/
def parent? (path : Path) : Option Path :=
  let (start, body) := splitStart path.text.toList
  match dropFillers (Text.splitAll '/' body) with
  | [] => if start = ['.'] then some ⟨""⟩ else none
  | pieces => some ⟨String.ofList (start ++ joinPieces (dropFillers pieces.dropLast))⟩

def isWithin (path ancestor : Path) : Bool :=
  ancestor.components.isPrefixOf path.components

theorem same_iff {first second : Path} :
    first.same second = true ↔ first.components = second.components := by
  simp [same]

theorem same_refl (path : Path) : path.same path = true := by
  simp [same]

theorem join_of_isAbsolute {path : Path} (base : Path) (h : path.isAbsolute = true) :
    base.join path = path := by
  simp [join, h]

example : (⟨"a//b/./c/"⟩ : Path).parent? = some ⟨"a//b"⟩ := by decide

example : (⟨"./a"⟩ : Path).parent? = some ⟨"."⟩ := by decide

example : (⟨"/a"⟩ : Path).parent? = some ⟨"/"⟩ := by decide

example : (⟨"//"⟩ : Path).parent? = none := by decide

end Path

end TypedOptions
