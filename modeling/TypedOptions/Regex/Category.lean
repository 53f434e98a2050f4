import TypedOptions.Regex.CategoryTable
import TypedOptions.Regex.CharSet

/-!
# Sets of general categories

The categories and the groups of categories with a common first letter, by
their names in small letters.
-/

namespace TypedOptions.CharSet

def any : CharSet := .range 0 lastCode

def ascii : CharSet := .range 0 0x7F

/-- The general categories with their two names. -/
def categories : List (String × String × CharSet) :=
  [("lu", "uppercaseletter", .table Regex.categoryLu),
    ("ll", "lowercaseletter", .table Regex.categoryLl),
    ("lt", "titlecaseletter", .table Regex.categoryLt),
    ("lm", "modifierletter", .table Regex.categoryLm),
    ("lo", "otherletter", .table Regex.categoryLo),
    ("mn", "nonspacingmark", .table Regex.categoryMn),
    ("mc", "spacingmark", .table Regex.categoryMc),
    ("me", "enclosingmark", .table Regex.categoryMe),
    ("nd", "decimalnumber", .table Regex.categoryNd),
    ("nl", "letternumber", .table Regex.categoryNl),
    ("no", "othernumber", .table Regex.categoryNo),
    ("pc", "connectorpunctuation", .table Regex.categoryPc),
    ("pd", "dashpunctuation", .table Regex.categoryPd),
    ("ps", "openpunctuation", .table Regex.categoryPs),
    ("pe", "closepunctuation", .table Regex.categoryPe),
    ("pi", "initialpunctuation", .table Regex.categoryPi),
    ("pf", "finalpunctuation", .table Regex.categoryPf),
    ("po", "otherpunctuation", .table Regex.categoryPo),
    ("sm", "mathsymbol", .table Regex.categorySm),
    ("sc", "currencysymbol", .table Regex.categorySc),
    ("sk", "modifiersymbol", .table Regex.categorySk),
    ("so", "othersymbol", .table Regex.categorySo),
    ("zs", "spaceseparator", .table Regex.categoryZs),
    ("zl", "lineseparator", .table Regex.categoryZl),
    ("zp", "paragraphseparator", .table Regex.categoryZp),
    ("cc", "control", .table Regex.categoryCc),
    ("cf", "format", .table Regex.categoryCf),
    ("co", "privateuse", .table Regex.categoryCo)]

/-- All categories whose short names begin with a letter. -/
def categoriesOf (letter : Char) : CharSet :=
  uniteAll ((categories.filter fun category => category.1.toList.head? == some letter).map
    fun category => category.2.2)

def assigned : CharSet :=
  uniteAll (categories.map fun category => category.2.2)

def unassigned : CharSet :=
  .complement assigned

/-- The groups of categories with their two names. -/
def categoryGroups : List (String × String × CharSet) :=
  [("l", "letter", categoriesOf 'l'), ("m", "mark", categoriesOf 'm'),
    ("n", "number", categoriesOf 'n'), ("p", "punctuation", categoriesOf 'p'),
    ("s", "symbol", categoriesOf 's'), ("z", "separator", categoriesOf 'z'),
    ("c", "other", .union (categoriesOf 'c') unassigned), ("cn", "unassigned", unassigned),
    ("lc", "casedletter",
      uniteAll [.table Regex.categoryLu, .table Regex.categoryLl, .table Regex.categoryLt])]

def ofCategoryName? (name : String) : Option CharSet :=
  let named := (categoryGroups ++ categories).find? fun (short, long, _) =>
    short == name || long == name
  match named with
  | some (_, _, set) => some set
  | none =>
      match name with
      | "any" => some any
      | "assigned" => some assigned
      | "ascii" => some ascii
      | "combiningmark" => some (categoriesOf 'm')
      | "digit" => some (.table Regex.categoryNd)
      | "punct" => some (categoriesOf 'p')
      | "cntrl" => some (.table Regex.categoryCc)
      | _ => none

end TypedOptions.CharSet
