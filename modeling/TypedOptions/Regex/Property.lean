import TypedOptions.Regex.Category
import TypedOptions.Regex.PropertyTable
import TypedOptions.Text.Blank

/-!
# Properties of characters

The larger properties of the character standard are made of categories,
smaller properties and exceptions.
-/

namespace TypedOptions.CharSet

/-! ### Letters and identifiers -/

def lowercase : CharSet :=
  .union (.table Regex.categoryLl) (.table Regex.otherLowercaseTable)

def uppercase : CharSet :=
  .union (.table Regex.categoryLu) (.table Regex.otherUppercaseTable)

def cased : CharSet :=
  uniteAll [lowercase, uppercase, .table Regex.categoryLt]

def alphabetic : CharSet :=
  uniteAll [categoriesOf 'l', .table Regex.categoryNl, .table Regex.otherLowercaseTable,
    .table Regex.otherUppercaseTable, .table Regex.otherAlphabeticTable]

/-- What cannot be part of an identifier because patterns are written with it. -/
def patternCharacters : CharSet :=
  .union (.table Regex.patternSyntaxTable) (.table Regex.patternWhiteSpaceTable)

def identifierStart : CharSet :=
  difference (uniteAll [categoriesOf 'l', .table Regex.categoryNl, .table Regex.otherIdStartTable])
    patternCharacters

def identifierPart : CharSet :=
  difference
    (uniteAll [identifierStart, .table Regex.categoryMn, .table Regex.categoryMc,
      .table Regex.categoryNd, .table Regex.categoryPc, .table Regex.otherIdContinueTable])
    patternCharacters

/-! ### Case -/

/-- Punctuation between the letters of a word, such as the colon of Swedish. -/
def midLetter : CharSet :=
  .table [(0x3A, 0x3A), (0xB7, 0xB7), (0x387, 0x387), (0x55F, 0x55F), (0x5F4, 0x5F4),
    (0x2027, 0x2027), (0xFE13, 0xFE13), (0xFE55, 0xFE55), (0xFF1A, 0xFF1A)]

/-- Punctuation between letters and between digits as well. -/
def midLetterOrNumber : CharSet :=
  .table [(0x2E, 0x2E), (0x2018, 0x2019), (0x2024, 0x2024), (0xFE52, 0xFE52), (0xFF07, 0xFF07),
    (0xFF0E, 0xFF0E)]

def caseIgnorable : CharSet :=
  uniteAll [.table Regex.categoryMn, .table Regex.categoryMe, .table Regex.categoryCf,
    .table Regex.categoryLm, .table Regex.categorySk, midLetter, midLetterOrNumber, single '\'']

/-- Letters whose partners of the other case came with the seventeenth edition. -/
def laterPairs : CharSet :=
  .table [(0xA7CE, 0xA7CF), (0xA7D2, 0xA7D5), (0x16EA0, 0x16ED3)]

/-- All characters that a case mapping changes. -/
def changedBy (runs : List Text.CaseRun) (special : List (Nat × List Nat)) : CharSet :=
  difference
    (.union (.table (runs.flatMap Text.CaseRun.sources))
      (.table (special.map fun (code, _) => (code, code))))
    laterPairs

def changesWhenLowercased : CharSet :=
  changedBy Text.lowerRuns Text.lowerSpecial

def changesWhenUppercased : CharSet :=
  changedBy Text.upperRuns Text.upperSpecial

/-- Title case differs from upper case for the digraphs; Georgian letters stay as they are. -/
def changesWhenTitlecased : CharSet :=
  difference
    (.union changesWhenUppercased
      (.table [(0x1C4, 0x1C4), (0x1C7, 0x1C7), (0x1CA, 0x1CA), (0x1F1, 0x1F1)]))
    (.union (.table Regex.categoryLt) (.table [(0x10D0, 0x10FA), (0x10FD, 0x10FF)]))

/-- Folding changes what has small letters and some variants of small letters; in Cherokee the
capital letters stay. -/
def changesWhenCasefolded : CharSet :=
  difference
    (.union changesWhenLowercased
      (.table [(0xB5, 0xB5), (0xDF, 0xDF), (0x149, 0x149), (0x17F, 0x17F), (0x345, 0x345),
        (0x3C2, 0x3C2), (0x3D0, 0x3D1), (0x3D5, 0x3D6), (0x3F0, 0x3F1), (0x3F5, 0x3F5),
        (0x587, 0x587), (0x13F8, 0x13FD), (0x1C80, 0x1C88), (0x1E9A, 0x1E9B), (0x1F80, 0x1F87),
        (0x1F90, 0x1F97), (0x1FA0, 0x1FA7), (0x1FB2, 0x1FB4), (0x1FB7, 0x1FB7), (0x1FC2, 0x1FC4),
        (0x1FC7, 0x1FC7), (0x1FF2, 0x1FF4), (0x1FF7, 0x1FF7), (0xAB70, 0xABBF), (0xFB00, 0xFB06),
        (0xFB13, 0xFB17)]))
    (.range 0x13A0 0x13F5)

def changesWhenCasemapped : CharSet :=
  uniteAll [changesWhenLowercased, changesWhenUppercased, changesWhenTitlecased]

/-! ### Graphemes and the rest -/

def graphemeExtension : CharSet :=
  uniteAll [.table Regex.categoryMn, .table Regex.categoryMe, .table Regex.otherGraphemeExtendTable]

def graphemeBase : CharSet :=
  .complement (uniteAll [categoriesOf 'c', unassigned, .table Regex.categoryZl,
    .table Regex.categoryZp, graphemeExtension])

def defaultIgnorable : CharSet :=
  difference
    (uniteAll [.table Regex.categoryCf, .table Regex.otherDefaultIgnorableCodePointTable,
      .table Regex.variationSelectorTable])
    (uniteAll [.table Regex.prependedConcatenationMarkTable, .range 0xFFF9 0xFFFB,
      .range 0x13430 0x13440])

def math : CharSet :=
  .union (.table Regex.categorySm) (.table Regex.otherMathTable)

def blank : CharSet := .table Text.blankTable

/-- The composed properties by their names in small letters. -/
def composedProperties : List (List String × CharSet) :=
  [(["alphabetic", "alpha"], alphabetic), (["caseignorable", "ci"], caseIgnorable),
    (["cased"], cased), (["changeswhencasefolded", "cwcf"], changesWhenCasefolded),
    (["changeswhencasemapped", "cwcm"], changesWhenCasemapped),
    (["changeswhenlowercased", "cwl"], changesWhenLowercased),
    (["changeswhentitlecased", "cwt"], changesWhenTitlecased),
    (["changeswhenuppercased", "cwu"], changesWhenUppercased),
    (["defaultignorablecodepoint", "di"], defaultIgnorable),
    (["graphemebase", "grbase"], graphemeBase), (["graphemeextend", "grext"], graphemeExtension),
    (["idcontinue", "idc"], identifierPart), (["idstart", "ids"], identifierStart),
    (["lowercase", "lower"], lowercase), (["math"], math), (["uppercase", "upper"], uppercase),
    (["whitespace", "space", "wspace"], blank),
    (["xidcontinue", "xidc"], difference identifierPart (.table Regex.notXidContinueTable)),
    (["xidstart", "xids"], difference identifierStart (.table Regex.notXidStartTable))]

/-- The table that is listed under a name, with all its names. -/
def listed? {α : Type} (entries : List (List String × α)) (name : String) :
    Option (List String × α) :=
  entries.find? fun entry => entry.1.contains name

/-- Properties that are neither categories nor scripts. -/
def ofPropertyName? (name : String) : Option CharSet :=
  ((listed? composedProperties name).map (·.2)).or
    ((listed? Regex.propertyTables name).map fun entry => .table entry.2)

end TypedOptions.CharSet
