import TypedOptions.Regex.Property
import TypedOptions.Regex.ScriptTable
import TypedOptions.Regex.SharedScriptTable

/-!
# Scripts of characters

Every character belongs to one script, or to none, and some are used in
several.
-/

namespace TypedOptions.CharSet

def ofScriptName? (name : String) : Option CharSet :=
  (listed? Regex.scriptTables name).map fun entry => .table entry.2

/-- The ranges of characters that several scripts share, as far as one of the names is among
theirs. -/
def sharedBy (names : List String) : CharSet :=
  .table ((Regex.sharedRanges.filter fun (_, _, scripts) => names.any scripts.contains).map
    fun (first, last, _) => (first, last))

def shared : CharSet :=
  .table (Regex.sharedRanges.map fun (first, last, _) => (first, last))

/-- All characters that a script uses: those that are its own and those that it shares. -/
def ofUsingScriptName? (name : String) : Option CharSet :=
  (listed? Regex.scriptTables name).map fun (names, codes) =>
    .union (difference (.table codes) shared) (sharedBy names)

end TypedOptions.CharSet
