import Mathlib.Data.List.Dedup
import Mathlib.Data.List.Perm.Subperm
import Mathlib.Logic.Relation
import TypedOptions.Proofs.OptionsFile.Inclusion
import TypedOptions.Proofs.OptionsFile.Lines

/-!
# Nested texts

While a text is read, the files that it includes are read, and so on.  Every
text is read with the places of the files that are open around it.  A place
is opened only while it is closed, so no place is open twice and the files
that can be read bound the depth.  Whatever makes a text fail is a line that is
refused, in the text itself or in one within it.
-/

namespace TypedOptions

/-! ## Texts with the places around them -/

/-- A text that is being read, and the places of the files that are open around it. -/
structure OpenText where
  opened : List Location
  context : SourceContext
  content : String

namespace OpenText

open Statement OptionsFile

def read (fileSystem : FileSystem) (text : OpenText) : Reading Settings :=
  readNested fileSystem text.opened text.context text.content

/-- The file of a place, read within another text under the name of a path. -/
def inside (text : OpenText) (path : Path) (location : Location) (content : String) : OpenText :=
  ⟨location :: text.opened, ⟨path.text, location.path.parent?⟩, content⟩

/-- The inner text is that of a file that the outer text includes and that is not open yet. -/
def Nests (fileSystem : FileSystem) (outer inner : OpenText) : Prop :=
  ∃ argument ∈ inclusions (ofText outer.content), ∃ location content,
    Opens fileSystem outer.opened (includePath outer.context argument) location content ∧
      inner = outer.inside (includePath outer.context argument) location content

/-- The text is read while the first one is read, if nothing fails before. -/
def Reaches (fileSystem : FileSystem) : OpenText → OpenText → Prop :=
  Relation.ReflTransGen (Nests fileSystem)

variable {fileSystem : FileSystem} {text inner : OpenText}

/-- What holds of the first text and carries over to the texts nested in it holds of all. -/
theorem Reaches.preserves {Invariant : OpenText → Prop}
    (hstep : ∀ outer inner, Nests fileSystem outer inner → Invariant outer → Invariant inner)
    (hreaches : Reaches fileSystem text inner) (hfirst : Invariant text) : Invariant inner := by
  induction hreaches with
  | refl => exact hfirst
  | tail _ hnests ih => exact hstep _ _ hnests ih

theorem exists_nests_of_read_ok {settings : Settings} {argument : String}
    (hread : (text.read fileSystem).outcome = .ok settings)
    (hargument : argument ∈ inclusions (ofText text.content)) :
    ∃ location content nested,
      Opens fileSystem text.opened (includePath text.context argument) location content ∧
        ((text.inside (includePath text.context argument) location content).read
          fileSystem).outcome = .ok nested := by
  unfold read at hread
  rw [← toOption_eq_some_iff, toOption_readNested, perform_eq_some_iff] at hread
  obtain ⟨-, results, hresults, -⟩ := hread
  obtain ⟨nested, hincluded⟩ := exists_of_forall₂ hresults hargument
  obtain ⟨location, content, hopens, hnested⟩ := included?_eq_some_iff.1 hincluded
  exact ⟨location, content, nested, hopens, hnested⟩

/-! ## How deep texts are nested -/

/-- Reads the file that an argument names, where its text is read by `step`. -/
def visit (fileSystem : FileSystem) (step : OpenText → Reading Settings) (text : OpenText) :
    Visit := fun argument number line =>
  let path := includePath text.context argument
  match fileSystem.locate path with
  | .error cause => .fail (.unreadableInclude path text.context.name number cause)
  | .ok location =>
      if text.opened.contains location then refuse text.context .circularInclusion number line
      else
        match fileSystem.readAt location.path location with
        | .error cause => .fail (.unreadableInclude location.path text.context.name number cause)
        | .ok content => do
            Logged.log (.including location.path.text number text.context.name)
            step (text.inside path location content)

theorem read_eq_readText (fileSystem : FileSystem) (text : OpenText) :
    text.read fileSystem =
      readText text.context (text.visit fileSystem (read fileSystem)) text.content :=
  readNested_eq_readText fileSystem text.opened text.context text.content

/-- Reads a text with at most `depth` texts within each other, the text itself counted.  What
would be deeper is left to `beyond`. -/
def readWithin (fileSystem : FileSystem) (beyond : OpenText → Reading Settings) :
    Nat → OpenText → Reading Settings
  | 0, text => beyond text
  | depth + 1, text =>
      readText text.context (text.visit fileSystem (readWithin fileSystem beyond depth)) text.content

/-- The number of places that can still be opened. -/
def closed (fileSystem : FileSystem) (text : OpenText) : Nat :=
  (fileSystem.locations.dedup.filter fun location => !text.opened.contains location).length

theorem closed_eq_length_filter (fileSystem : FileSystem) (text : OpenText) :
    text.closed fileSystem = (fileSystem.locations.dedup.filter (· ∉ text.opened)).length := by
  unfold closed
  congr 1
  apply List.filter_congr
  intro location _
  simp

theorem closed_inside_lt {path : Path} {location : Location} {content : String}
    (hopens : Opens fileSystem text.opened path location content) :
    (text.inside path location content).closed fileSystem < text.closed fileSystem := by
  have hmem : location ∈ fileSystem.locations.dedup :=
    List.mem_dedup.2 (FileSystem.mem_locations_of_readAt hopens.2.2)
  rw [closed_eq_length_filter, closed_eq_length_filter]
  exact closed_length_lt hmem hopens.2.1

theorem visit_congr {first second : OpenText → Reading Settings}
    (hsame : ∀ path location content, Opens fileSystem text.opened path location content →
      first (text.inside path location content) = second (text.inside path location content)) :
    text.visit fileSystem first = text.visit fileSystem second := by
  funext argument number line
  unfold visit
  cases hlocate : fileSystem.locate (includePath text.context argument) with
  | error cause => simp only [hlocate]
  | ok location =>
      simp only [hlocate]
      by_cases hopen : location ∈ text.opened
      · simp only [List.contains_iff_mem, hopen, if_true]
      · simp only [List.contains_iff_mem, hopen, if_false]
        cases hcontent : fileSystem.readAt location.path location with
        | error cause => rfl
        | ok content =>
            have hinside := hsame (includePath text.context argument) location content
              ⟨hlocate, hopen, hcontent⟩
            simp only [hinside]

theorem readWithin_eq_read (beyond : OpenText → Reading Settings) {depth : Nat}
    (hdepth : text.closed fileSystem < depth) :
    readWithin fileSystem beyond depth text = text.read fileSystem := by
  induction depth generalizing text with
  | zero => omega
  | succ depth ih =>
      rw [readWithin, read_eq_readText]
      congr 1
      apply visit_congr
      intro path location content hopens
      have hless := closed_inside_lt hopens
      apply ih
      omega

/-- No place is open twice, and only files can be open. -/
structure Distinct (fileSystem : FileSystem) (text : OpenText) : Prop where
  nodup : text.opened.Nodup
  readable : text.opened ⊆ fileSystem.locations

theorem Distinct.nests (hdistinct : text.Distinct fileSystem) (hnests : Nests fileSystem text inner) :
    inner.Distinct fileSystem := by
  obtain ⟨argument, -, location, content, ⟨-, hclosed, hcontent⟩, rfl⟩ := hnests
  constructor
  · exact List.nodup_cons.2 ⟨hclosed, hdistinct.nodup⟩
  · intro other hother
    rcases List.mem_cons.1 hother with rfl | hearlier
    · exact FileSystem.mem_locations_of_readAt hcontent
    · exact hdistinct.readable hearlier

/-- Each open place is one that cannot be opened any more. -/
theorem Distinct.opened_add_closed_le (hdistinct : text.Distinct fileSystem) :
    text.opened.length + text.closed fileSystem ≤ fileSystem.locations.dedup.length := by
  have hnodup : (text.opened ++ fileSystem.locations.dedup.filter (· ∉ text.opened)).Nodup := by
    apply List.Nodup.append hdistinct.nodup ((List.nodup_dedup _).filter _)
    intro location hopen hclosed
    have hnew := (List.mem_filter.1 hclosed).2
    exact absurd hopen (of_decide_eq_true hnew)
  have hreadable : text.opened ++ fileSystem.locations.dedup.filter (· ∉ text.opened) ⊆
      fileSystem.locations.dedup := by
    apply List.append_subset.2
    constructor
    · exact fun location hlocation => List.mem_dedup.2 (hdistinct.readable hlocation)
    · exact List.filter_subset_self _
  have hlength := (List.subperm_of_subset hnodup hreadable).length_le
  rwa [List.length_append, ← closed_eq_length_filter] at hlength

/-! ## Lines that are reached -/

/-- The lines `before` of the text can be read, and lead to a draft with which the others are
read. -/
structure Arrives (fileSystem : FileSystem) (text : OpenText) (before rest : List (List Char))
    (reached : Draft) : Prop where
  lines_eq : Text.lines text.content.toList = before ++ rest
  outcome_eq : (readLines text.context (text.visit fileSystem (read fileSystem))
    (.empty text.context.source) 1 before).outcome = .ok reached

theorem Arrives.outcome_read {before rest : List (List Char)} {reached : Draft}
    (harrives : text.Arrives fileSystem before rest reached) :
    (text.read fileSystem).outcome =
      Draft.settings <$> (readLines text.context (text.visit fileSystem (read fileSystem)) reached
        (1 + before.length) rest).outcome := by
  rw [read_eq_readText, outcome_readText, harrives.lines_eq, outcome_readLines_append,
    harrives.outcome_eq]
  rfl

theorem Arrives.outcome_read_of_failing {before after : List (List Char)} {raw : List Char}
    {reached : Draft} {error : OptionsFileError}
    (harrives : text.Arrives fileSystem before (raw :: after) reached)
    (hraw : (readLine text.context (text.visit fileSystem (read fileSystem)) reached
      (1 + before.length) raw).outcome = .error error) :
    (text.read fileSystem).outcome = .error error := by
  rw [harrives.outcome_read, readLines, Logged.outcome_bind, hraw]
  rfl

/-! ## Inclusions that fail -/

/-- An inclusion fails because the text of its file fails, because its file is open, or because
there is nothing to be read. -/
theorem error_of_visit {argument : String} {number : Nat} {line : List Char}
    {error : OptionsFileError}
    (hvisit : (text.visit fileSystem (read fileSystem) argument number line).outcome =
      .error error) :
    (∃ location content,
        Opens fileSystem text.opened (includePath text.context argument) location content ∧
          ((text.inside (includePath text.context argument) location content).read
            fileSystem).outcome = .error error) ∨
      (∃ location, fileSystem.locate (includePath text.context argument) = .ok location ∧
        location ∈ text.opened ∧
        error = .line .circularInclusion text.context.name number (String.ofList line)) ∨
      ∃ path cause, error = .unreadableInclude path text.context.name number cause := by
  unfold visit at hvisit
  cases hlocate : fileSystem.locate (includePath text.context argument) with
  | error cause =>
      simp only [hlocate] at hvisit
      cases hvisit
      exact Or.inr (Or.inr ⟨_, cause, rfl⟩)
  | ok location =>
      simp only [hlocate] at hvisit
      by_cases hopen : location ∈ text.opened
      · simp only [List.contains_iff_mem, hopen, if_true] at hvisit
        cases hvisit
        exact Or.inr (Or.inl ⟨location, rfl, hopen, rfl⟩)
      · simp only [List.contains_iff_mem, hopen, if_false] at hvisit
        cases hcontent : fileSystem.readAt location.path location with
        | error cause =>
            simp only [hcontent] at hvisit
            cases hvisit
            exact Or.inr (Or.inr ⟨_, cause, rfl⟩)
        | ok content =>
            simp only [hcontent, Logged.outcome_bind, Logged.outcome_log] at hvisit
            exact Or.inl ⟨location, content, ⟨hlocate, hopen, hcontent⟩, hvisit⟩

/-- The numbered line of the text names a file whose place is open. -/
def Circular (fileSystem : FileSystem) (text : OpenText) (number : Nat) (shown : String) : Prop :=
  ∃ line argument location,
    shown = String.ofList line ∧ IncludesAt text.content number line argument ∧
      fileSystem.locate (includePath text.context argument) = .ok location ∧
      location ∈ text.opened

/-- The numbered line includes a file whose own text fails. -/
def FailsWithin (fileSystem : FileSystem) (text : OpenText) (number : Nat)
    (error : OptionsFileError) : Prop :=
  ∃ line argument location content,
    IncludesAt text.content number line argument ∧
      Opens fileSystem text.opened (includePath text.context argument) location content ∧
        ((text.inside (includePath text.context argument) location content).read
          fileSystem).outcome = .error error

/-- The numbered line is refused itself: what it says is at fault, it includes a file that is open,
or a file that cannot be read. -/
inductive Refuses (fileSystem : FileSystem) (text : OpenText) (number : Nat) (line : List Char) :
    OptionsFileError → Prop where
  | faulty (fault : LineFault) (hplain : fault ≠ .circularInclusion) :
      Refuses fileSystem text number line
        (.line fault text.context.name number (String.ofList line))
  | circular (hcircular : text.Circular fileSystem number (String.ofList line)) :
      Refuses fileSystem text number line
        (.line .circularInclusion text.context.name number (String.ofList line))
  | unreadable (path : Path) (cause : FileError) :
      Refuses fileSystem text number line
        (.unreadableInclude path text.context.name number cause)

/-- The line at which a text fails is refused, or it includes a file that fails. -/
theorem refuses_or_failsWithin (text : OpenText) {reached : Draft} {before after : List (List Char)}
    {raw : List Char} {error : OptionsFileError}
    (hlines : Text.lines text.content.toList = before ++ raw :: after)
    (hbefore : (readLines text.context (text.visit fileSystem (read fileSystem))
      (.empty text.context.source) 1 before).outcome = .ok reached)
    (hraw : (readLine text.context (text.visit fileSystem (read fileSystem)) reached
      (1 + before.length) raw).outcome = .error error) :
    text.Refuses fileSystem (1 + before.length) (Text.trim raw) error ∨
      text.FailsWithin fileSystem (1 + before.length) error := by
  rcases error_of_readLine hraw with ⟨hopen, argument, hread, hvisit⟩ | ⟨fault, hplain, rfl⟩
  · rw [isSome_pending?_of_readLines hbefore] at hopen
    have hincludes : IncludesAt text.content (1 + before.length) (Text.trim raw) argument :=
      ⟨before, raw, after, hlines, rfl, rfl, hopen, hread⟩
    rcases error_of_visit hvisit with
      ⟨location, content, hopens, hinside⟩ | ⟨location, hlocate, hopened, rfl⟩ | ⟨path, cause, rfl⟩
    · exact Or.inr ⟨Text.trim raw, argument, location, content, hincludes, hopens, hinside⟩
    · exact Or.inl (.circular ⟨Text.trim raw, argument, location, rfl, hincludes, hlocate, hopened⟩)
    · exact Or.inl (.unreadable path cause)
  · exact Or.inl (.faulty fault hplain)

/-- Whatever makes a text fail is a line that is refused, in the text or in one within it. -/
theorem exists_refuses {text : OpenText} {error : OptionsFileError}
    (herror : (text.read fileSystem).outcome = .error error) :
    ∃ inner number line, Reaches fileSystem text inner ∧
      (inner.read fileSystem).outcome = .error error ∧
      inner.Refuses fileSystem number line error := by
  have htext := herror
  rw [read_eq_readText, readText_outcome_eq_error_iff] at htext
  obtain ⟨before, raw, after, reached, hlines, hbefore, hraw⟩ := exists_failing_line htext
  rcases refuses_or_failsWithin text hlines hbefore hraw with
    hrefuses | ⟨line, argument, location, content, hincludes, hopens, hinside⟩
  · exact ⟨text, _, _, .refl, herror, hrefuses⟩
  · obtain ⟨inner, number, line, hreaches, hinner⟩ := exists_refuses hinside
    have hnests : Nests fileSystem text
        (text.inside (includePath text.context argument) location content) :=
      ⟨argument, hincludes.mem_inclusions, location, content, hopens, rfl⟩
    exact ⟨inner, number, line, .head hnests hreaches, hinner⟩
termination_by text.closed fileSystem
decreasing_by exact closed_inside_lt hopens

/-- A text that fails for a circular inclusion has within it a text with this inclusion, whose
file is open. -/
theorem exists_circular {text : OpenText} {source shown : String} {number : Nat}
    (herror : (text.read fileSystem).outcome =
      .error (.line .circularInclusion source number shown)) :
    ∃ inner, Reaches fileSystem text inner ∧
      (inner.read fileSystem).outcome = .error (.line .circularInclusion source number shown) ∧
      inner.context.name = source ∧ inner.Circular fileSystem number shown := by
  obtain ⟨inner, _, _, hreaches, hinner, hrefuses⟩ := exists_refuses herror
  cases hrefuses with
  | faulty _ hplain => exact absurd rfl hplain
  | circular hcircular => exact ⟨inner, hreaches, hinner, rfl, hcircular⟩

end OpenText

end TypedOptions
