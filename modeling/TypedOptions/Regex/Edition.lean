import TypedOptions.Regex.EditionTable
import TypedOptions.Regex.Property

/-!
# Ages of characters

The age of a character is the edition of the character standard that added
it.  A set is named by an edition and holds all characters that are at least
that old.
-/

namespace TypedOptions.CharSet

/-- The editions up to the one with a name. -/
def editionsUpTo (name : String) :
    List (List String × Text.CodeTable) → Option (List Text.CodeTable)
  | [] => none
  | (names, codes) :: rest =>
      if names.contains name then some [codes] else (editionsUpTo name rest).map (codes :: ·)

def ofEditionName? (name : String) : Option CharSet :=
  (editionsUpTo name Regex.editionTables).map fun tables => uniteAll (tables.map .table)

end TypedOptions.CharSet
