import TypedOptions.OptionName
import TypedOptions.OptionsFile.Error
import TypedOptions.Text.Blank
import TypedOptions.Text.Lines

/-!
# Statements of option files

Every trimmed line that does not continue a value is one statement: nothing
at all, an inclusion, the heading of a section, or an assignment.  What a
line says does not depend on the lines before it.
-/

namespace TypedOptions

inductive Statement where
  | nothing
  | inclusion (argument : String)
  /-- The empty heading ends the section. -/
  | heading (name : String)
  /-- The value has been trimmed; it may end with a continuation mark. -/
  | assignment (key : String) (value : List Char)
  | faulty (fault : LineFault)
  deriving DecidableEq

namespace Statement

def includeMark : List Char :=
  ['#', 'i', 'n', 'c', 'l', 'u', 'd', 'e']

/-- A line behind a hash sign.  Everything after the mark is the argument, also without a blank
between them. -/
def ofDirective (line : List Char) : Statement :=
  if includeMark.isPrefixOf line then
    let argument := Text.trim (line.drop includeMark.length)
    if argument = [] then .faulty .missingInclude else .inclusion (String.ofList argument)
  else .faulty .illegalDirective

/-- The name between square brackets. -/
def ofHeading (name : List Char) : Statement :=
  let name := Text.trim name
  if name = [] || isName name then .heading (String.ofList name) else .faulty .illegalSection

def ofAssignment (line : List Char) : Statement :=
  if line.length < 2 then .faulty .tooShort
  else
    match Text.splitFirst '=' line with
    | none => .faulty .missingSeparator
    | some (key, value) =>
        let key := Text.trim key
        if isName key then .assignment (String.ofList key) (Text.trim value)
        else .faulty .illegalKey

/-- What a trimmed line says. -/
def read (line : List Char) : Statement :=
  match line with
  | [] => .nothing
  | '#' :: ' ' :: _ => .nothing
  | '/' :: '/' :: _ => .nothing
  | '#' :: _ => ofDirective line
  | '[' :: rest => if rest.getLast? = some ']' then ofHeading rest.dropLast else ofAssignment line
  | _ => ofAssignment line

/-- The text without its continuation mark, a single backslash at the end, and whether it had
one. -/
def splitContinuation (text : List Char) : List Char × Bool :=
  match text.reverse with
  | '\\' :: '\\' :: _ => (text, false)
  | '\\' :: _ => (text.dropLast, true)
  | _ => (text, false)

@[simp] theorem read_nil : read [] = .nothing := by
  simp [read]

/-- What a statement tells about the line that it is read from. -/
inductive ReadFrom (line : List Char) : Statement → Prop where
  | nothing : ReadFrom line .nothing
  | inclusion (argument : String) : ReadFrom line (.inclusion argument)
  | heading (name : String) (hlegal : name = "" ∨ isName name.toList = true) :
      ReadFrom line (.heading name)
  | assignment (before after : List Char) (hsplit : Text.splitFirst '=' line = some (before, after))
      (hlegal : isName (Text.trim before) = true) :
      ReadFrom line (.assignment (String.ofList (Text.trim before)) (Text.trim after))
  | faulty (fault : LineFault) (hplain : fault ≠ .circularInclusion) :
      ReadFrom line (.faulty fault)

theorem readFrom_ofDirective (line : List Char) : ReadFrom line (ofDirective line) := by
  unfold ofDirective
  split
  · simp only
    split
    · exact .faulty _ nofun
    · exact .inclusion _
  · exact .faulty _ nofun

theorem readFrom_ofHeading (line name : List Char) : ReadFrom line (ofHeading name) := by
  unfold ofHeading
  simp only
  split
  · rename_i hlegal
    rw [Bool.or_eq_true, decide_eq_true_eq] at hlegal
    refine .heading _ (hlegal.imp (fun hempty => by rw [hempty]) fun hname => ?_)
    rwa [String.toList_ofList]
  · exact .faulty _ nofun

theorem readFrom_ofAssignment (line : List Char) : ReadFrom line (ofAssignment line) := by
  unfold ofAssignment
  split
  · exact .faulty _ nofun
  · split
    · exact .faulty _ nofun
    · rename_i before after hsplit
      simp only
      split
      · exact .assignment before after hsplit ‹_›
      · exact .faulty _ nofun

theorem readFrom_read (line : List Char) : ReadFrom line (read line) := by
  unfold read
  split
  · exact .nothing
  · exact .nothing
  · exact .nothing
  · exact readFrom_ofDirective _
  · split
    · exact readFrom_ofHeading _ _
    · exact readFrom_ofAssignment _
  · exact readFrom_ofAssignment _

theorem read_eq_assignment {line value : List Char} {key : String}
    (hread : read line = .assignment key value) :
    ∃ before after, Text.splitFirst '=' line = some (before, after) ∧
      isName (Text.trim before) = true ∧ key = String.ofList (Text.trim before) ∧
      value = Text.trim after := by
  have hfrom := readFrom_read line
  rw [hread] at hfrom
  cases hfrom with
  | assignment before after hsplit hlegal => exact ⟨before, after, hsplit, hlegal, rfl, rfl⟩

theorem isName_of_read_eq_assignment {line value : List Char} {key : String}
    (hread : read line = .assignment key value) : isName key.toList = true := by
  obtain ⟨before, after, -, hlegal, rfl, -⟩ := read_eq_assignment hread
  rwa [String.toList_ofList]

theorem read_eq_heading {line : List Char} {name : String} (hread : read line = .heading name) :
    name = "" ∨ isName name.toList = true := by
  have hfrom := readFrom_read line
  rw [hread] at hfrom
  cases hfrom with
  | heading _ hlegal => exact hlegal

/-- That an inclusion is circular cannot be told from its line. -/
theorem faulty_ne_circular {line : List Char} {fault : LineFault}
    (hread : read line = .faulty fault) : fault ≠ .circularInclusion := by
  have hfrom := readFrom_read line
  rw [hread] at hfrom
  cases hfrom with
  | faulty _ hplain => exact hplain

/-- None of the marks that start other statements may stand in a name. -/
theorem read_of_isNameChar {c : Char} (rest : List Char) (hc : isNameChar c = true) :
    read (c :: rest) = ofAssignment (c :: rest) := by
  have hmark : ∀ mark, isNameChar mark = false → c ≠ mark := by
    rintro mark hmark rfl
    rw [hc] at hmark
    cases hmark
  have hhash := hmark '#' (by decide)
  have hslash := hmark '/' (by decide)
  have hbracket := hmark '[' (by decide)
  unfold read
  split <;> simp_all
end Statement

end TypedOptions
