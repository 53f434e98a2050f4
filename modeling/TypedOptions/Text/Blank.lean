import TypedOptions.Text.CodeTable

/-!
# White space and trimming

White space is the White_Space property of the character standard, so that
no-break and ideographic spaces are trimmed along with blanks and tabs.
-/

namespace TypedOptions.Text

def blankTable : CodeTable :=
  [(0x9, 0xD), (0x20, 0x20), (0x85, 0x85), (0xA0, 0xA0), (0x1680, 0x1680), (0x2000, 0x200A),
    (0x2028, 0x2029), (0x202F, 0x202F), (0x205F, 0x205F), (0x3000, 0x3000)]

def isBlank (c : Char) : Bool :=
  blankTable.contains c

def trimStart (text : List Char) : List Char :=
  text.dropWhile isBlank

def trimEnd (text : List Char) : List Char :=
  (text.reverse.dropWhile isBlank).reverse

/-- The text without the white space at its two ends. -/
def trim (text : List Char) : List Char :=
  trimEnd (trimStart text)

@[simp] theorem trimStart_nil : trimStart [] = [] :=
  rfl

@[simp] theorem trimEnd_nil : trimEnd [] = [] :=
  rfl

@[simp] theorem trim_nil : trim [] = [] :=
  rfl

theorem trimStart_cons_of_isBlank {c : Char} (rest : List Char) (hc : isBlank c = true) :
    trimStart (c :: rest) = trimStart rest := by
  simp [trimStart, hc]

theorem trimStart_cons_of_not_isBlank {c : Char} (rest : List Char) (hc : isBlank c = false) :
    trimStart (c :: rest) = c :: rest := by
  simp [trimStart, hc]

theorem trimEnd_append_of_isBlank {c : Char} (text : List Char) (hc : isBlank c = true) :
    trimEnd (text ++ [c]) = trimEnd text := by
  simp [trimEnd, hc]

theorem trimEnd_append_of_not_isBlank {c : Char} (text : List Char) (hc : isBlank c = false) :
    trimEnd (text ++ [c]) = text ++ [c] := by
  simp [trimEnd, hc]

/-- The pieces of a text between its runs of white space. -/
def words : List Char → List (List Char)
  | [] => []
  | c :: rest =>
      if isBlank c then words rest
      else
        match rest with
        | [] => [[c]]
        | next :: _ =>
            if isBlank next then [c] :: words rest
            else
              match words rest with
              | [] => [[c]]
              | word :: more => (c :: word) :: more

end TypedOptions.Text
