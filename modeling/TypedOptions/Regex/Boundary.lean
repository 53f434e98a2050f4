import TypedOptions.Regex.Script

/-!
# Classes of text boundaries

Every character has a class for each of three kinds of boundaries: between
graphemes, between words and between sentences.
-/

namespace TypedOptions.CharSet

def joiner : CharSet := .range 0x200D 0x200D

def scriptsNamed (names : List String) : CharSet :=
  uniteAll (names.filterMap ofScriptName?)

/-! ### Graphemes -/

namespace Grapheme

def control : CharSet :=
  difference
    (uniteAll [.table Regex.categoryCc, .table Regex.categoryCf, .table Regex.categoryZl,
      .table Regex.categoryZp, .inter unassigned defaultIgnorable])
    (uniteAll [single '\r', single '\n', joiner, graphemeExtension,
      .table Regex.prependedConcatenationMarkTable])

def extend : CharSet :=
  .union graphemeExtension (.table Regex.emojiModifierTable)

/-- Marks of numbers and consonants that are written before a cluster. -/
def leading : CharSet :=
  .union (.table Regex.prependedConcatenationMarkTable)
    (.table [(0xD4E, 0xD4E), (0x111C2, 0x111C3), (0x113D1, 0x113D1), (0x1193F, 0x1193F),
      (0x11941, 0x11941), (0x11A3A, 0x11A3A), (0x11A84, 0x11A89), (0x11D46, 0x11D46),
      (0x11F02, 0x11F02)])

def spacingMark : CharSet :=
  .union
    (difference (.table Regex.categoryMc)
      (.union graphemeExtension
        (.table [(0x102B, 0x102C), (0x1038, 0x1038), (0x1062, 0x1064), (0x1067, 0x106D),
          (0x1083, 0x1083), (0x1087, 0x108C), (0x108F, 0x108F), (0x109A, 0x109C),
          (0x1A61, 0x1A61), (0x1A63, 0x1A64), (0xAA7B, 0xAA7B), (0xAA7D, 0xAA7D),
          (0x11720, 0x11721)])))
    (.table [(0xE33, 0xE33), (0xEB3, 0xEB3)])

/-- Every 28th Hangul syllable has no final consonant. -/
def openSyllable : CharSet :=
  .table (Text.CodeTable.spaced 0xAC00 0xD788 28)

def ofName? (name : String) : Option CharSet :=
  match name with
  | "cr" => some (single '\r')
  | "lf" => some (single '\n')
  | "control" | "cn" => some control
  | "extend" | "ex" => some extend
  | "prepend" | "pp" => some leading
  | "spacingmark" | "sm" => some spacingMark
  | "zwj" => some joiner
  | "regionalindicator" | "ri" => some (.table Regex.regionalIndicatorTable)
  | "l" => some (.table [(0x1100, 0x115F), (0xA960, 0xA97C)])
  | "v" => some (.table [(0x1160, 0x11A7), (0xD7B0, 0xD7C6), (0x16D63, 0x16D63),
      (0x16D67, 0x16D6A)])
  | "t" => some (.table [(0x11A8, 0x11FF), (0xD7CB, 0xD7FB)])
  | "lv" => some openSyllable
  | "lvt" => some (difference (.range 0xAC00 0xD7A3) openSyllable)
  | _ => none

end Grapheme

/-! ### Words -/

namespace Word

def extend : CharSet :=
  uniteAll [graphemeExtension, .table Regex.categoryMc, .table Regex.emojiModifierTable]

def format : CharSet :=
  difference (.table Regex.categoryCf)
    (uniteAll [graphemeExtension, .table Regex.prependedConcatenationMarkTable, joiner,
      .range 0x200B 0x200B])

def katakana : CharSet :=
  .union (scriptsNamed ["katakana"])
    (.table [(0x3031, 0x3035), (0x309B, 0x309C), (0x30A0, 0x30A0), (0x30FC, 0x30FC),
      (0xFF70, 0xFF70)])

def hebrewLetter : CharSet :=
  .inter (scriptsNamed ["hebrew"]) (.table Regex.categoryLo)

def numeric : CharSet :=
  uniteAll [.table Regex.categoryNd, .table [(0x66B, 0x66B), (0x19DA, 0x19DA)],
    difference (.table Regex.prependedConcatenationMarkTable) (.range 0x70F 0x70F)]

/-- Letters of scripts that are written without blanks between words are left out. -/
def letter : CharSet :=
  .union
    (difference alphabetic
      (uniteAll [.table Regex.ideographicTable, katakana, hebrewLetter, extend,
        scriptsNamed ["hiragana", "thai", "lao", "myanmar", "khmer", "taile", "newtailue",
          "taitham", "taiviet", "ahom"]]))
    (.table [(0x2C2, 0x2C5), (0x2D2, 0x2D7), (0x2DE, 0x2DF), (0x2E5, 0x2EB), (0x2ED, 0x2ED),
      (0x2EF, 0x2FF), (0x55A, 0x55C), (0x55E, 0x55E), (0x58A, 0x58A), (0x5F3, 0x5F3),
      (0x70F, 0x70F), (0xA708, 0xA716), (0xA720, 0xA721), (0xA789, 0xA78A), (0xAB5B, 0xAB5B)])

def midNumber : CharSet :=
  .table [(0x2C, 0x2C), (0x3B, 0x3B), (0x37E, 0x37E), (0x589, 0x589), (0x60C, 0x60D),
    (0x66C, 0x66C), (0x7F8, 0x7F8), (0x2044, 0x2044), (0xFE50, 0xFE50), (0xFE54, 0xFE54),
    (0xFF0C, 0xFF0C), (0xFF1B, 0xFF1B)]

def ofName? (name : String) : Option CharSet :=
  match name with
  | "aletter" | "le" => some letter
  | "cr" => some (single '\r')
  | "doublequote" | "dq" => some (single '"')
  | "extend" => some extend
  | "extendnumlet" | "ex" => some (.union (.table Regex.categoryPc) (.range 0x202F 0x202F))
  | "format" | "fo" => some format
  | "hebrewletter" | "hl" => some hebrewLetter
  | "katakana" | "ka" => some katakana
  | "lf" => some (single '\n')
  | "midletter" | "ml" => some midLetter
  | "midnum" | "mn" => some midNumber
  | "midnumlet" | "mb" => some midLetterOrNumber
  | "newline" | "nl" => some (.table [(0xB, 0xC), (0x85, 0x85), (0x2028, 0x2029)])
  | "numeric" | "nu" => some numeric
  | "regionalindicator" | "ri" => some (.table Regex.regionalIndicatorTable)
  | "singlequote" | "sq" => some (single '\'')
  | "wsegspace" =>
      some (difference (.table Regex.categoryZs)
        (.table [(0xA0, 0xA0), (0x2007, 0x2007), (0x202F, 0x202F)]))
  | "zwj" => some joiner
  | _ => none

end Word

/-! ### Sentences -/

namespace Sentence

def extend : CharSet :=
  uniteAll [graphemeExtension, .table Regex.categoryMc, joiner]

def fullStop : CharSet :=
  .table [(0x2E, 0x2E), (0x2024, 0x2024), (0xFE52, 0xFE52), (0xFF0E, 0xFF0E)]

def close : CharSet :=
  .union
    (difference
      (uniteAll [.table Regex.categoryPs, .table Regex.categoryPe, .table Regex.categoryPi,
        .table Regex.categoryPf, .table Regex.quotationMarkTable])
      (.table [(0xFF02, 0xFF02), (0xFF07, 0xFF07)]))
    (.table [(0x275B, 0x2760), (0x2E00, 0x2E01), (0x2E06, 0x2E08), (0x2E0B, 0x2E0B),
      (0x1F676, 0x1F678)])

/-- Small letters; those of Georgian begin sentences as well and do not count. -/
def lower : CharSet :=
  difference lowercase
    (.union graphemeExtension (.table [(0x10D0, 0x10FA), (0x10FD, 0x10FF)]))

def upper : CharSet :=
  difference (.union uppercase (.table Regex.categoryLt))
    (.table [(0x1C90, 0x1CBA), (0x1CBD, 0x1CBF)])

def otherLetter : CharSet :=
  difference (.union alphabetic (.range 0x5F3 0x5F3)) (uniteAll [lower, upper, extend])

def continuation : CharSet :=
  .table [(0x2C, 0x2D), (0x3A, 0x3B), (0x37E, 0x37E), (0x55D, 0x55D), (0x60C, 0x60D),
    (0x7F8, 0x7F8), (0x1802, 0x1802), (0x1808, 0x1808), (0x2013, 0x2014), (0x3001, 0x3001),
    (0xFE10, 0xFE11), (0xFE13, 0xFE14), (0xFE31, 0xFE32), (0xFE50, 0xFE51), (0xFE54, 0xFE55),
    (0xFE58, 0xFE58), (0xFE63, 0xFE63), (0xFF0C, 0xFF0D), (0xFF1A, 0xFF1B), (0xFF64, 0xFF64)]

def separator : CharSet :=
  .table [(0x85, 0x85), (0x2028, 0x2029)]

def ofName? (name : String) : Option CharSet :=
  match name with
  | "aterm" | "at" => some fullStop
  | "close" | "cl" => some close
  | "cr" => some (single '\r')
  | "extend" | "ex" => some extend
  | "format" | "fo" => some (.union Word.format (.table [(0x70F, 0x70F), (0x200B, 0x200B)]))
  | "lf" => some (single '\n')
  | "lower" | "lo" => some lower
  | "numeric" | "nu" => some (.union Word.numeric (.range 0x66C 0x66C))
  | "oletter" | "le" => some otherLetter
  | "scontinue" | "sc" => some continuation
  | "sep" | "se" => some separator
  | "sp" => some (difference blank (uniteAll [single '\n', single '\r', separator]))
  | "sterm" | "st" => some (difference (.table Regex.sentenceTerminalTable) fullStop)
  | "upper" | "up" => some upper
  | _ => none

end Sentence

end TypedOptions.CharSet
