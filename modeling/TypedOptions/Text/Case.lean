import TypedOptions.Text.Blank
import TypedOptions.Text.CaseTable

/-!
# Upper and lower case

Full case mapping: a character may become several, as `ß` becomes `SS`.
Going to lower case, a capital sigma at the end of a word becomes `ς`.
-/

namespace TypedOptions.Text

def CaseRun.covers (run : CaseRun) (code : Nat) : Bool :=
  run.first ≤ code && code ≤ run.last && (code - run.first) % run.step == 0

def CaseRun.sources (run : CaseRun) : CodeTable :=
  CodeTable.spaced run.first run.last run.step

/-- The single character that the runs assign to a code, the code itself if none does. -/
def moveByRuns (runs : List CaseRun) (code : Nat) : Nat :=
  match runs.find? (·.covers code) with
  | some run => (code + run.offset).toNat
  | none => code

def mapCase (special : List (Nat × List Nat)) (runs : List CaseRun) (c : Char) : List Char :=
  match special.lookup c.toNat with
  | some codes => codes.map Char.ofNat
  | none => [Char.ofNat (moveByRuns runs c.toNat)]

def upperChar (c : Char) : List Char :=
  if c.toNat < 0x80 then [c.toUpper] else mapCase upperSpecial upperRuns c

def lowerChar (c : Char) : List Char :=
  if c.toNat < 0x80 then [c.toLower] else mapCase lowerSpecial lowerRuns c

def uppercase (text : String) : String :=
  String.ofList (text.toList.flatMap upperChar)

/-- Whether the first character that is not passed over has a case. -/
def startsCased (text : List Char) : Bool :=
  match text.dropWhile caseIgnorableTable.contains with
  | [] => false
  | c :: _ => casedTable.contains c

/-- Lower case of a text whose part `before`, in reverse, has been passed already. -/
def lowercaseAfter (before : List Char) : List Char → List Char
  | [] => []
  | c :: rest =>
      let lowered :=
        if c = 'Σ' then
          if startsCased before && !startsCased rest then ['ς'] else ['σ']
        else lowerChar c
      lowered ++ lowercaseAfter (c :: before) rest

def lowercase (text : List Char) : List Char :=
  lowercaseAfter [] text

example : upperChar 'ß' = ['S', 'S'] := by decide

example : upperChar 'é' = ['É'] := by decide

example : lowercase ['Ο', 'Σ'] = ['ο', 'ς'] := by decide

end TypedOptions.Text
