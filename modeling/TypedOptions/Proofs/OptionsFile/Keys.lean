import TypedOptions.Proofs.OptionsFile.Nesting

/-!
# Keys that are assigned twice

A line that assigns a value says so whatever stands around it; which key it
means depends on the section that the lines before it have left open.  The keys
that a draft holds are those of the lines that were read.  So a line is refused
for its key exactly if an earlier line has the same key in full, and in a text
that is read no assignment is lost.
-/

namespace TypedOptions

namespace Statement

/-- The section in effect behind a line, given whether the line continues a value. -/
def headingBehind (heading : String) (isOpen : Bool) (line : List Char) : String :=
  if isOpen then heading
  else
    match read (Text.trim line) with
    | .heading name => name
    | _ => heading

def sectionBehind (heading : String) (isOpen : Bool) : List (List Char) → String
  | [] => heading
  | line :: rest => sectionBehind (headingBehind heading isOpen line) (leavesOpen isOpen line) rest

/-- A line behind others assigns to the key in full; `part` is what it says of the value. -/
structure AssignsBelow (heading : String) (isOpen : Bool) (before : List (List Char))
    (line : List Char) (key : String) (part : List Char) : Prop where
  closed : leftOpen isOpen before = false
  named : ∃ name, read (Text.trim line) = .assignment name part ∧
    key = OptionName.qualify (sectionBehind heading isOpen before) name

/-- The same for lines at the beginning of a text. -/
def AssignsTo (before : List (List Char)) (line : List Char) (key : String) (part : List Char) :
    Prop :=
  AssignsBelow "" false before line key part

/-- The value that begins with a part and goes on in the lines behind it. -/
def wholeValue (part : List Char) : List (List Char) → List Char
  | [] => (splitContinuation part).1
  | line :: rest =>
      match splitContinuation part with
      | (cut, true) => cut ++ wholeValue (Text.trim line) rest
      | (cut, false) => cut

/-- One of the lines assigns to the key. -/
def Assigned (heading : String) (isOpen : Bool) (lines : List (List Char)) (key : String) : Prop :=
  ∃ before line after part, lines = before ++ line :: after ∧
    AssignsBelow heading isOpen before line key part

theorem not_assigned_nil {heading key : String} {isOpen : Bool} :
    ¬Assigned heading isOpen [] key := by
  rintro ⟨before, line, after, part, hlines, -⟩
  simp at hlines

theorem assigned_cons_iff {heading key : String} {isOpen : Bool} {line : List Char}
    {rest : List (List Char)} :
    Assigned heading isOpen (line :: rest) key ↔
      (∃ part, AssignsBelow heading isOpen [] line key part) ∨
        Assigned (headingBehind heading isOpen line) (leavesOpen isOpen line) rest key := by
  constructor
  · rintro ⟨before, other, after, part, hlines, hassigns⟩
    cases before with
    | nil =>
        obtain ⟨rfl, rfl⟩ := List.cons.inj hlines
        exact Or.inl ⟨part, hassigns⟩
    | cons first more =>
        obtain ⟨rfl, rfl⟩ := List.cons.inj hlines
        exact Or.inr ⟨more, other, after, part, rfl, hassigns.closed, hassigns.named⟩
  · rintro (⟨part, hassigns⟩ | ⟨before, other, after, part, rfl, hassigns⟩)
    · exact ⟨[], line, rest, part, rfl, hassigns⟩
    · exact ⟨line :: before, other, after, part, rfl, hassigns.closed, hassigns.named⟩

theorem assignsBelow_nil_iff {heading key : String} {isOpen : Bool} {line part : List Char} :
    AssignsBelow heading isOpen [] line key part ↔
      isOpen = false ∧ ∃ name, read (Text.trim line) = .assignment name part ∧
        key = OptionName.qualify heading name :=
  ⟨fun hassigns => ⟨hassigns.closed, hassigns.named⟩, fun ⟨hclosed, hnamed⟩ => ⟨hclosed, hnamed⟩⟩

theorem read_ne_duplicate (line : List Char) : read line ≠ .faulty .duplicateOption := by
  have hdirective : ofDirective line ≠ .faulty .duplicateOption := by
    unfold ofDirective
    split
    · simp only
      split <;> simp
    · simp
  have hassignment : ofAssignment line ≠ .faulty .duplicateOption := by
    unfold ofAssignment
    split
    · simp
    · split
      · simp
      · simp only
        split <;> simp
  unfold read
  split
  · simp
  · simp
  · simp
  · exact hdirective
  · split
    · unfold ofHeading
      simp only
      split <;> simp
    · exact hassignment
  · exact hassignment

/-! ## Values -/

theorem mem_assignments_withPart (heading name : String) (value part : List Char)
    (after : List (List Char)) :
    (OptionName.qualify heading name, String.ofList (value ++ wholeValue part after)) ∈
      assignments heading (withPart name value part fun next? => ofLines next? after) := by
  induction after generalizing value part with
  | nil =>
      unfold withPart wholeValue
      rcases splitContinuation part with ⟨cut, goesOn⟩
      cases goesOn <;> simp [ofLines, assignments]
  | cons line rest ih =>
      unfold withPart wholeValue
      rcases splitContinuation part with ⟨cut, goesOn⟩
      cases goesOn with
      | true =>
          rw [← List.append_assoc]
          exact ih (value ++ cut) (Text.trim line)
      | false => simp [assignments]

theorem mem_assignments_withPart_of_following {heading key : String} {value part : List Char}
    {following : Option (String × List Char) → List Statement} {entry : String × String}
    (hfollowing : ∀ next?, next?.isSome = (splitContinuation part).2 →
      entry ∈ assignments heading (following next?)) :
    entry ∈ assignments heading (withPart key value part following) := by
  rcases hsplit : splitContinuation part with ⟨cut, goesOn⟩
  rw [hsplit] at hfollowing
  unfold withPart
  rw [hsplit]
  cases goesOn with
  | true => exact hfollowing (some (key, value ++ cut)) rfl
  | false => exact List.mem_cons_of_mem _ (hfollowing none rfl)

/-- The value of a line is among the assignments of the text. -/
theorem AssignsBelow.mem_assignments {begun? : Option (String × List Char)} {heading key : String}
    {before : List (List Char)} {line part : List Char}
    (hassigns : AssignsBelow heading begun?.isSome before line key part)
    (after : List (List Char)) :
    (key, String.ofList (wholeValue part after)) ∈
      assignments heading (ofLines begun? (before ++ line :: after)) := by
  induction before generalizing heading begun? with
  | nil =>
      obtain ⟨hclosed, name, hread, rfl⟩ := assignsBelow_nil_iff.1 hassigns
      rw [Option.isSome_eq_false_iff, Option.isNone_iff_eq_none] at hclosed
      subst hclosed
      simp only [List.nil_append, ofLines, hread]
      exact mem_assignments_withPart heading name [] part after
  | cons first more ih =>
      have hrest : ∀ next? : Option (String × List Char),
          next?.isSome = leavesOpen begun?.isSome first →
            (key, String.ofList (wholeValue part after)) ∈
              assignments (headingBehind heading begun?.isSome first)
                (ofLines next? (more ++ line :: after)) := by
        intro next? hnext
        apply ih
        rw [hnext]
        exact ⟨hassigns.closed, hassigns.named⟩
      cases begun? with
      | some begun =>
          obtain ⟨name, value⟩ := begun
          exact mem_assignments_withPart_of_following hrest
      | none =>
          have hnone := hrest none
          simp only [headingBehind, leavesOpen, Option.isSome_none, Bool.false_eq_true,
            if_false] at hrest hnone
          cases hread : read (Text.trim first) with
          | assignment name value =>
              simp only [List.cons_append, ofLines, hread] at hrest ⊢
              exact mem_assignments_withPart_of_following hrest
          | _ =>
              simp only [List.cons_append, ofLines, hread, assignments] at hnone ⊢
              exact hnone trivial

end Statement

namespace Draft

open Statement

/-- The assignments of the text itself, an open value as it is so far. -/
def held (draft : Draft) : Settings :=
  match draft.pending? with
  | some (key, value) => (draft.assign key value).direct
  | none => draft.direct

theorem held_of_pending?_none {draft : Draft} (hpending : draft.pending? = none) :
    draft.held = draft.direct := by
  rw [held, hpending]

theorem mem_held_addPart {draft : Draft} {key other : String} {value part : List Char} :
    other ∈ (draft.addPart key value part).held ↔ other = key ∨ other ∈ draft.direct := by
  have hinsert : ∀ whole : List Char, other ∈ (draft.assign key whole).direct ↔
      other = key ∨ other ∈ draft.direct := by
    intro whole
    rw [assign, Settings.mem_insert, eq_comm]
  unfold addPart
  rcases splitContinuation part with ⟨cut, goesOn⟩
  cases goesOn with
  | true => exact hinsert (value ++ cut)
  | false => exact hinsert (value ++ cut)

theorem heading_addPart (draft : Draft) (key : String) (value part : List Char) :
    (draft.addPart key value part).heading = draft.heading := by
  unfold addPart
  rcases splitContinuation part with ⟨cut, goesOn⟩
  cases goesOn <;> rfl

end Draft

namespace OptionsFile

open Statement

variable {context : SourceContext} {visit : Visit}

/-- What a line that succeeds adds to the section and to the keys of a draft. -/
structure Extends (draft next : Draft) (line : List Char) : Prop where
  heading_eq : next.heading = headingBehind draft.heading draft.pending?.isSome line
  mem_held_iff : ∀ key, key ∈ next.held ↔
    key ∈ draft.held ∨ ∃ part, AssignsBelow draft.heading draft.pending?.isSome [] line key part

theorem extends_of_other {draft next : Draft} {line : List Char}
    (hpending : draft.pending? = none) (hopen : next.pending? = none)
    (hdirect : next.direct = draft.direct)
    (hheading : next.heading = headingBehind draft.heading false line)
    (hother : ∀ name part, read (Text.trim line) ≠ .assignment name part) :
    Extends draft next line := by
  constructor
  · rw [hpending]
    exact hheading
  · intro key
    rw [Draft.held_of_pending?_none hopen, Draft.held_of_pending?_none hpending, hdirect]
    constructor
    · exact Or.inl
    · rintro (hmem | ⟨part, hassigns⟩)
      · exact hmem
      · obtain ⟨name, hread, -⟩ := hassigns.named
        exact absurd hread (hother name part)

theorem extends_of_readLine {draft next : Draft} {number : Nat} {line : List Char}
    (hline : (readLine context visit draft number line).outcome = .ok next) :
    Extends draft next line := by
  cases hpending : draft.pending? with
  | some begun =>
      obtain ⟨key, value⟩ := begun
      rw [readLine_of_pending hpending] at hline
      cases hline
      constructor
      · rw [Draft.heading_addPart, hpending]
        rfl
      · intro other
        rw [Draft.mem_held_addPart, hpending]
        have hheld : other ∈ draft.held ↔ other = key ∨ other ∈ draft.direct := by
          rw [Draft.held, hpending]
          change other ∈ draft.direct.insert key _ ↔ _
          rw [Settings.mem_insert, eq_comm]
        rw [hheld]
        constructor
        · exact Or.inl
        · rintro (hmem | ⟨part, hassigns⟩)
          · exact hmem
          · exact absurd hassigns.closed (by simp [leftOpen])
  | none =>
      rw [readLine_of_pending_none hpending, execute] at hline
      cases hread : read (Text.trim line) with
      | nothing =>
          rw [hread] at hline
          cases hline
          exact extends_of_other hpending hpending rfl (by simp [headingBehind, hread])
            (by simp [hread])
      | heading name =>
          rw [hread] at hline
          cases hline
          exact extends_of_other hpending hpending rfl (by simp [headingBehind, hread])
            (by simp [hread])
      | inclusion argument =>
          simp only [hread] at hline
          obtain ⟨nested, -, rfl⟩ := outcome_bind_pure_eq_ok_iff.1 hline
          exact extends_of_other hpending hpending rfl (by simp [headingBehind, hread])
            (by simp [hread])
      | faulty fault =>
          rw [hread] at hline
          cases hline
      | assignment name part =>
          simp only [hread] at hline
          split at hline
          · cases hline
          · cases hline
            constructor
            · rw [Draft.heading_addPart, hpending]
              simp [headingBehind, hread]
            · intro key
              rw [Draft.mem_held_addPart, Draft.held_of_pending?_none hpending, hpending]
              simp only [assignsBelow_nil_iff, hread, Option.isSome_none, true_and]
              constructor
              · rintro (rfl | hmem)
                · exact Or.inr ⟨part, name, rfl, rfl⟩
                · exact Or.inl hmem
              · rintro (hmem | ⟨other, shheld, hsame, rfl⟩)
                · exact Or.inr hmem
                · cases hsame
                  exact Or.inl rfl

/-- The keys that a draft holds are those that it held before and those of the lines. -/
theorem mem_held_of_readLines {lines : List (List Char)} {draft reached : Draft} {number : Nat}
    (hlines : (readLines context visit draft number lines).outcome = .ok reached) :
    reached.heading = sectionBehind draft.heading draft.pending?.isSome lines ∧
      ∀ key, key ∈ reached.held ↔
        key ∈ draft.held ∨ Assigned draft.heading draft.pending?.isSome lines key := by
  induction lines generalizing draft number with
  | nil =>
      cases hlines
      exact ⟨rfl, fun key => by simp [not_assigned_nil]⟩
  | cons line rest ih =>
      rw [readLines, Logged.outcome_bind] at hlines
      obtain ⟨next, hline, hrest⟩ := bind_eq_ok_iff.1 hlines
      obtain ⟨hheading, hheld⟩ := extends_of_readLine hline
      have hopen := isSome_pending?_of_readLine hline
      obtain ⟨hsection, hkeys⟩ := ih hrest
      rw [hheading, hopen] at hsection hkeys
      refine ⟨hsection, fun key => ?_⟩
      rw [hkeys, hheld, assigned_cons_iff, or_assoc]

theorem value?_of_assignsTo {fileSystem : FileSystem} {text : OpenText} {result : Settings}
    (hread : (text.read fileSystem).outcome = .ok result) {before after : List (List Char)}
    {line part : List Char} {key : String}
    (hlines : Text.lines text.content.toList = before ++ line :: after)
    (hassigns : AssignsTo before line key part) :
    result.value? key = some (String.ofList (wholeValue part after)) := by
  unfold OpenText.read at hread
  rw [← toOption_eq_some_iff, toOption_readNested, perform_eq_some_iff] at hread
  obtain ⟨hsound, nested, -, rfl⟩ := hread
  have hbelow : AssignsBelow "" (none : Option (String × List Char)).isSome before line key part :=
    hassigns
  have hmem : (key, String.ofList (wholeValue part after)) ∈
      assignments "" (ofText text.content) := by
    rw [ofText, hlines]
    exact hbelow.mem_assignments after
  rw [value?_merged hsound.distinct, lookup_of_mem hsound.distinct hmem, Option.some_or]

/-! ## Lines that are refused for their keys -/

theorem readLine_of_assignment {draft : Draft} {line part : List Char} {name : String}
    (hpending : draft.pending? = none) (hread : read (Text.trim line) = .assignment name part)
    (number : Nat) :
    readLine context visit draft number line =
      if OptionName.qualify draft.heading name ∈ draft.direct then
        refuse context .duplicateOption number (Text.trim line)
      else pure (draft.addPart (OptionName.qualify draft.heading name) [] part) := by
  rw [readLine_of_pending_none hpending, execute, hread]

/-- A line fails for a key either by itself or because of the file that it includes. -/
theorem cases_of_duplicate {draft : Draft} {number place : Nat} {line : List Char}
    {source shown : String}
    (hline : (readLine context visit draft number line).outcome =
      .error (.line .duplicateOption source place shown)) :
    (draft.pending? = none ∧ shown = String.ofList (Text.trim line) ∧
        ∃ name part, read (Text.trim line) = .assignment name part ∧
          OptionName.qualify draft.heading name ∈ draft.direct) ∨
      ∃ argument, read (Text.trim line) = .inclusion argument ∧
        (visit argument number (Text.trim line)).outcome =
          .error (.line .duplicateOption source place shown) := by
  cases hpending : draft.pending? with
  | some begun =>
      rw [readLine_of_pending hpending] at hline
      cases hline
  | none =>
      rw [readLine_of_pending_none hpending, execute] at hline
      cases hread : read (Text.trim line) with
      | nothing =>
          rw [hread] at hline
          cases hline
      | heading name =>
          rw [hread] at hline
          cases hline
      | inclusion argument =>
          simp only [hread] at hline
          exact Or.inr ⟨argument, rfl, outcome_bind_pure_eq_error_iff.1 hline⟩
      | assignment name part =>
          simp only [hread] at hline
          split at hline
          · rename_i htaken
            cases hline
            exact Or.inl ⟨rfl, rfl, name, part, rfl, htaken⟩
          · cases hline
      | faulty fault =>
          rw [hread] at hline
          cases hline
          exact absurd hread (read_ne_duplicate _)

/-- Wherever a key is refused, the error shows the line of an assignment. -/
theorem exists_assignment_of_duplicate {fileSystem : FileSystem} {text : OpenText} {place : Nat}
    {source shown : String}
    (herror : (text.read fileSystem).outcome =
      .error (.line .duplicateOption source place shown)) :
    ∃ name part, read shown.toList = .assignment name part := by
  rw [OpenText.read_eq_readText, readText_outcome_eq_error_iff] at herror
  obtain ⟨before, raw, after, reached, -, -, hraw⟩ := exists_failing_line herror
  rcases cases_of_duplicate hraw with ⟨-, rfl, name, part, hread, -⟩ | ⟨argument, -, hvisit⟩
  · exact ⟨name, part, by rwa [String.toList_ofList]⟩
  · rcases OpenText.error_of_visit hvisit with
      ⟨location, content, hopens, hinside⟩ | ⟨location, -, -, hcircular⟩ | ⟨_, cause, hunreadable⟩
    · exact exists_assignment_of_duplicate hinside
    · cases hcircular
    · cases hunreadable
termination_by text.closed fileSystem
decreasing_by exact OpenText.closed_inside_lt hopens

theorem readLine_eq_duplicate_iff {fileSystem : FileSystem} {text : OpenText} {draft : Draft}
    {number : Nat} {line : List Char} :
    (readLine text.context (text.visit fileSystem (OpenText.read fileSystem)) draft number
        line).outcome =
        .error (.line .duplicateOption text.context.name number (String.ofList (Text.trim line))) ↔
      draft.pending? = none ∧ ∃ name part, read (Text.trim line) = .assignment name part ∧
        OptionName.qualify draft.heading name ∈ draft.direct := by
  constructor
  · intro hline
    rcases cases_of_duplicate hline with ⟨hpending, -, htaken⟩ | ⟨argument, hread, hvisit⟩
    · exact ⟨hpending, htaken⟩
    · -- An error of the included file would show an assignment, but the line is an inclusion.
      rcases OpenText.error_of_visit hvisit with
        ⟨location, content, -, hinside⟩ | ⟨location, -, -, hcircular⟩ | ⟨path, cause, hunreadable⟩
      · obtain ⟨name, part, hshown⟩ := exists_assignment_of_duplicate hinside
        rw [String.toList_ofList, hread] at hshown
        cases hshown
      · cases hcircular
      · cases hunreadable
  · rintro ⟨hpending, name, part, hread, htaken⟩
    rw [readLine_of_assignment hpending hread, if_pos htaken]
    rfl

section Arrived

variable {fileSystem : FileSystem} {text : OpenText} {before rest : List (List Char)}
  {raw : List Char} {reached : Draft}

/-- Where a text has arrived, the draft tells which line assigns to which key. -/
theorem assignsTo_iff (harrives : text.Arrives fileSystem before rest reached) {key : String}
    {part : List Char} :
    AssignsTo before raw key part ↔
      reached.pending? = none ∧ ∃ name, read (Text.trim raw) = .assignment name part ∧
        key = OptionName.qualify reached.heading name := by
  have hheading : reached.heading = sectionBehind "" false before :=
    (mem_held_of_readLines harrives.outcome_eq).1
  have hopen : reached.pending?.isSome = leftOpen false before :=
    isSome_pending?_of_readLines harrives.outcome_eq
  rw [← Option.isNone_iff_eq_none, ← Option.isSome_eq_false_iff, hopen, hheading]
  exact ⟨fun hassigns => ⟨hassigns.closed, hassigns.named⟩,
    fun ⟨hclosed, hnamed⟩ => ⟨hclosed, hnamed⟩⟩

theorem mem_direct_iff_assigned (harrives : text.Arrives fileSystem before rest reached)
    (hpending : reached.pending? = none) (key : String) :
    key ∈ reached.direct ↔ Assigned "" false before key := by
  have hheld := (mem_held_of_readLines harrives.outcome_eq).2 key
  have hnone : key ∉ (Draft.empty text.context.source).held := by simp [Draft.held, Draft.empty]
  rw [Draft.held_of_pending?_none hpending] at hheld
  rw [hheld, or_iff_right hnone]
  rfl

theorem refused_iff_assigned (harrives : text.Arrives fileSystem before rest reached) :
    (readLine text.context (text.visit fileSystem (OpenText.read fileSystem)) reached
        (1 + before.length) raw).outcome =
        .error (.line .duplicateOption text.context.name (1 + before.length)
          (String.ofList (Text.trim raw))) ↔
      ∃ key part, AssignsTo before raw key part ∧ Assigned "" false before key := by
  rw [readLine_eq_duplicate_iff]
  constructor
  · rintro ⟨hpending, name, part, hread, htaken⟩
    exact ⟨_, part, (assignsTo_iff harrives).2 ⟨hpending, name, hread, rfl⟩,
      (mem_direct_iff_assigned harrives hpending _).1 htaken⟩
  · rintro ⟨key, part, hassigns, hassigned⟩
    obtain ⟨hpending, name, hread, rfl⟩ := (assignsTo_iff harrives).1 hassigns
    exact ⟨hpending, name, part, hread, (mem_direct_iff_assigned harrives hpending _).2 hassigned⟩

end Arrived

/-- A text that is read can be read up to each of its lines. -/
theorem exists_draft_of_read {fileSystem : FileSystem} {text : OpenText} {result : Settings}
    {before rest : List (List Char)} (hread : (text.read fileSystem).outcome = .ok result)
    (hlines : Text.lines text.content.toList = before ++ rest) :
    ∃ reached, text.Arrives fileSystem before rest reached := by
  rw [OpenText.read_eq_readText, outcome_readText, hlines, outcome_readLines_append] at hread
  obtain ⟨draft, hdraft, -⟩ := map_eq_ok_iff.1 hread
  obtain ⟨reached, hbefore, -⟩ := bind_eq_ok_iff.1 hdraft
  exact ⟨reached, hlines, hbefore⟩

/-- A line that is reached is refused for its key exactly if it assigns to a key to which an earlier
line of the same text assigns.  If nothing fails, no key is assigned twice, and each assignment
gives its key the value of the result. -/
theorem duplicates_refused_exactly (fileSystem : FileSystem) (text : OpenText) :
    (∀ before raw after reached, text.Arrives fileSystem before (raw :: after) reached →
      ((readLine text.context (text.visit fileSystem (OpenText.read fileSystem)) reached
          (1 + before.length) raw).outcome =
          .error (.line .duplicateOption text.context.name (1 + before.length)
            (String.ofList (Text.trim raw))) ↔
        ∃ key part, AssignsTo before raw key part ∧ Assigned "" false before key) ∧
      ((∃ key part, AssignsTo before raw key part ∧ Assigned "" false before key) →
        (text.read fileSystem).outcome =
          .error (.line .duplicateOption text.context.name (1 + before.length)
            (String.ofList (Text.trim raw))))) ∧
    ∀ result, (text.read fileSystem).outcome = .ok result →
      ∀ before raw after key part, Text.lines text.content.toList = before ++ raw :: after →
        AssignsTo before raw key part →
          result.value? key = some (String.ofList (wholeValue part after)) ∧
            ¬Assigned "" false before key := by
  refine ⟨fun before raw after reached harrives => ⟨refused_iff_assigned harrives, fun htaken => ?_⟩,
    fun result hread before raw after key part hlines hassigns => ?_⟩
  · exact harrives.outcome_read_of_failing ((refused_iff_assigned harrives).2 htaken)
  · refine ⟨value?_of_assignsTo hread hlines hassigns, fun hassigned => ?_⟩
    obtain ⟨reached, harrives⟩ := exists_draft_of_read hread hlines
    have hfails := harrives.outcome_read_of_failing
      ((refused_iff_assigned harrives).2 ⟨key, part, hassigns, hassigned⟩)
    rw [hread] at hfails
    cases hfails

namespace KeysSample

/-- The sixth line assigns in full to the key that the second one assigns to below a section. -/
def text : String :=
  "[s]\nx = 1 \\\n  # 2\n#include part\n[]\ns.x = 3\n"

def withoutRepetition : String :=
  "[s]\nx = 1 \\\n  # 2\n#include part\n[]\ny = 3\n"

def files : MemoryFiles :=
  MemoryFiles.empty.withFile ⟨"/c/part"⟩ "s.x = 0\n"

def openText (content : String) : OpenText :=
  ⟨[], ⟨"inline", some ⟨"/c"⟩⟩, content⟩

/-- The first five lines of the texts: a value that goes on, and a file with the same key. -/
def firstLines : List (List Char) :=
  ["[s]", "x = 1 \\", "  # 2", "#include part", "[]"].map String.toList

theorem assigned_in_firstLines : Assigned "" false firstLines "s.x" :=
  ⟨["[s]".toList], "x = 1 \\".toList, ["  # 2", "#include part", "[]"].map String.toList,
    "1 \\".toList, by decide, by decide, "x", by decide, by decide⟩

theorem duplicates_refused_exactly_sample :
    ((openText text).read (.memory files)).outcome =
        .error (.line .duplicateOption "inline" 6 "s.x = 3") ∧
      ∃ result, ((openText withoutRepetition).read (.memory files)).outcome = .ok result ∧
        result.value? "s.x" = some "1 # 2" ∧ result.value? "y" = some "3" := by
  constructor
  · have hreached : ((readLines ⟨"inline", some ⟨"/c"⟩⟩
        ((openText text).visit (.memory files) (OpenText.read (.memory files)))
        (.empty (.path ⟨"inline"⟩)) 1 firstLines).outcome.toOption).isSome = true := by
      decide +kernel
    exact ((duplicates_refused_exactly (.memory files) (openText text)).1 firstLines
      "s.x = 3".toList [] _ ⟨by decide, eq_ok_getD hreached (.empty (.path ⟨"inline"⟩))⟩).2
      ⟨"s.x", "3".toList, ⟨by decide, "s.x", by decide, by decide⟩, assigned_in_firstLines⟩
  · have hread : ((openText withoutRepetition).read (.memory files)).outcome.toOption.isSome =
        true := by
      decide +kernel
    have hresult := eq_ok_getD hread ∅
    have hvalues := (duplicates_refused_exactly (.memory files) (openText withoutRepetition)).2 _
      hresult
    refine ⟨_, hresult, ?_, ?_⟩
    · exact (hvalues ["[s]".toList] "x = 1 \\".toList
        (["  # 2", "#include part", "[]", "y = 3"].map String.toList) "s.x" "1 \\".toList
        (by decide) ⟨by decide, "x", by decide, by decide⟩).1
    · exact (hvalues firstLines "y = 3".toList [] "y" "3".toList (by decide)
        ⟨by decide, "y", by decide, by decide⟩).1

end KeysSample

end OptionsFile

end TypedOptions
