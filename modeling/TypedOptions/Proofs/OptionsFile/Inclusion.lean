import TypedOptions.Proofs.Lists
import TypedOptions.Proofs.OptionsFile.Outline

/-!
# Texts within texts

What an inclusion leads to does not depend on the line that it stands in, and
the files that are being read can only make it fail.  Hence a file that was
read while it was included says the same when it is read on its own.
-/

namespace TypedOptions

namespace OptionsFile

open Statement

/-- Reads the file that an argument names while the files of the places `opened` are being read. -/
def visitNested (fileSystem : FileSystem) (opened : List Location) (context : SourceContext) :
    Visit := fun argument number line =>
  let path := includePath context argument
  match fileSystem.locate path with
  | .error cause => .fail (.unreadableInclude path context.name number cause)
  | .ok location =>
      if opened.contains location then refuse context .circularInclusion number line
      else
        match fileSystem.readAt location.path location with
        | .error cause => .fail (.unreadableInclude location.path context.name number cause)
        | .ok nested => do
            Logged.log (.including location.path.text number context.name)
            readNested fileSystem (location :: opened) ⟨path.text, location.path.parent?⟩ nested

theorem readNested_eq_readText (fileSystem : FileSystem) (opened : List Location)
    (context : SourceContext) (content : String) :
    readNested fileSystem opened context content =
      readText context (visitNested fileSystem opened context) content := by
  rw [readNested]
  congr 1
  funext argument number line
  simp only [visitNested]
  cases fileSystem.locate (includePath context argument) with
  | error cause => rfl
  | ok location =>
      by_cases hopened : location ∈ opened
      · simp [hopened]
      · simp only [List.contains_iff_mem, hopened, if_false, dif_neg, not_false_eq_true]
        split <;> simp_all

def included? (fileSystem : FileSystem) (opened : List Location) (context : SourceContext)
    (argument : String) : Option Settings :=
  let path := includePath context argument
  (fileSystem.locate path).toOption.bind fun location =>
    if opened.contains location then none
    else
      (fileSystem.readAt location.path location).toOption.bind fun content =>
        (readNested fileSystem (location :: opened) ⟨path.text, location.path.parent?⟩
          content).outcome.toOption

theorem toOption_visitNested (fileSystem : FileSystem) (opened : List Location)
    (context : SourceContext) (argument : String) (number : Nat) (line : List Char) :
    (visitNested fileSystem opened context argument number line).outcome.toOption =
      included? fileSystem opened context argument := by
  simp only [visitNested, included?]
  cases fileSystem.locate (includePath context argument) with
  | error cause => rfl
  | ok location =>
      by_cases hopened : location ∈ opened
      · simp [hopened, refuse, Except.toOption]
      · simp only [List.contains_iff_mem, hopened, if_false, Except.toOption,
          Option.bind_some]
        cases fileSystem.readAt location.path location with
        | error cause => rfl
        | ok nested => rfl

theorem toOption_readNested (fileSystem : FileSystem) (opened : List Location)
    (context : SourceContext) (content : String) :
    (readNested fileSystem opened context content).outcome.toOption =
      perform (included? fileSystem opened context) context.source "" ∅ ∅ (ofText content) := by
  rw [readNested_eq_readText]
  exact toOption_readText (toOption_visitNested fileSystem opened context) content

/-- A path leads to a file that is not being read. -/
def Opens (fileSystem : FileSystem) (opened : List Location) (path : Path) (location : Location)
    (content : String) : Prop :=
  fileSystem.locate path = .ok location ∧ location ∉ opened ∧
    fileSystem.readAt location.path location = .ok content

/-- An inclusion succeeds if it names a file that is not being read and whose text succeeds. -/
theorem included?_eq_some_iff {fileSystem : FileSystem} {opened : List Location}
    {context : SourceContext} {argument : String} {settings : Settings} :
    included? fileSystem opened context argument = some settings ↔
      ∃ location content,
        Opens fileSystem opened (includePath context argument) location content ∧
        (readNested fileSystem (location :: opened)
          ⟨(includePath context argument).text, location.path.parent?⟩ content).outcome =
            .ok settings := by
  simp only [included?, Option.bind_eq_some_iff, toOption_eq_some_iff, List.contains_iff_mem]
  constructor
  · rintro ⟨location, hlocation, hrest⟩
    split at hrest
    · cases hrest
    · rename_i hclosed
      obtain ⟨content, hcontent, hresult⟩ := Option.bind_eq_some_iff.1 hrest
      exact ⟨location, content, ⟨hlocation, hclosed, toOption_eq_some_iff.1 hcontent⟩,
        toOption_eq_some_iff.1 hresult⟩
  · rintro ⟨location, content, ⟨hlocation, hclosed, hcontent⟩, hresult⟩
    refine ⟨location, hlocation, ?_⟩
    rw [if_neg hclosed, hcontent]
    exact toOption_eq_some_iff.2 hresult

/-- Texts are read alike if their statements are performed alike, and if the files that the one can
open are open to the other with texts that are alike as well. -/
theorem readNested_of_alike {Alike : String → String → Prop}
    (hperform : ∀ known source text other, Alike text other →
      perform known source "" ∅ ∅ (ofText text) = perform known source "" ∅ ∅ (ofText other))
    {fileSystem wider : FileSystem} {opened fewer : List Location} {context : SourceContext}
    {content shown : String} {settings : Settings}
    (hopens : ∀ path location text, Opens fileSystem opened path location text →
      ∃ other, Opens wider fewer path location other ∧ Alike text other)
    (hcontent : Alike content shown)
    (hresult : (readNested fileSystem opened context content).outcome = .ok settings) :
    (readNested wider fewer context shown).outcome = .ok settings := by
  rw [← toOption_eq_some_iff, toOption_readNested] at hresult ⊢
  rw [← hperform _ _ _ _ hcontent]
  refine perform_mono (fun argument nested hnested => ?_) hresult
  obtain ⟨location, text, hopen, hread⟩ := included?_eq_some_iff.1 hnested
  have hclosed := hopen.2.1
  have htext := hopen.2.2
  obtain ⟨other, hother, hsame⟩ := hopens _ _ _ hopen
  refine included?_eq_some_iff.2 ⟨location, other, hother, ?_⟩
  refine readNested_of_alike hperform (fun path place inner hinner => ?_) hsame hread
  obtain ⟨hplace, hnew, hinner⟩ := hinner
  rw [List.mem_cons, not_or] at hnew
  obtain ⟨innerOther, ⟨hplace', hnew', hinner'⟩, hinnerSame⟩ :=
    hopens path place inner ⟨hplace, hnew.2, hinner⟩
  exact ⟨innerOther, ⟨hplace', by simp [hnew.1, hnew'], hinner'⟩, hinnerSame⟩
termination_by (fileSystem.locations.filter (· ∉ opened)).length
decreasing_by exact closed_length_lt (FileSystem.mem_locations_of_readAt htext) hclosed

/-- A text that succeeds does so wherever at least the same files can be opened, so what is being
read can only make it fail. -/
theorem readNested_mono {fileSystem wider : FileSystem} {opened fewer : List Location}
    {context : SourceContext} {content : String} {settings : Settings}
    (hopens : ∀ path location text, Opens fileSystem opened path location text →
      Opens wider fewer path location text)
    (hresult : (readNested fileSystem opened context content).outcome = .ok settings) :
    (readNested wider fewer context content).outcome = .ok settings := by
  have hperform : ∀ known source text other, text = other →
      perform known source "" ∅ ∅ (ofText text) = perform known source "" ∅ ∅ (ofText other) := by
    rintro known source text - rfl
    rfl
  exact readNested_of_alike hperform
    (fun path location text hopen => ⟨text, hopens path location text hopen, rfl⟩) rfl hresult

theorem readNested_of_subset {fileSystem : FileSystem} {opened fewer : List Location}
    {context : SourceContext} {content : String} {settings : Settings}
    (hfewer : fewer ⊆ opened)
    (hresult : (readNested fileSystem opened context content).outcome = .ok settings) :
    (readNested fileSystem fewer context content).outcome = .ok settings :=
  readNested_mono (fun _ _ _ ⟨hlocation, hclosed, htext⟩ =>
    ⟨hlocation, fun hmem => hclosed (hfewer hmem), htext⟩) hresult

/-! ## Whole texts and files -/

theorem parseFile_outcome_eq_ok_iff {fileSystem : FileSystem} {path : Path}
    {settings : Settings} :
    (parseFile fileSystem path).outcome = .ok settings ↔
      ∃ location content,
        Opens fileSystem [] path location content ∧
        (readNested fileSystem [location] ⟨path.text, location.path.parent?⟩ content).outcome =
          .ok settings := by
  unfold parseFile Opens
  cases fileSystem.locate path with
  | error cause => simp
  | ok location => cases hcontent : fileSystem.readAt location.path location <;> simp [hcontent]

/-- A file says on its own what it says where it is included. -/
theorem parseFile_of_included? {fileSystem : FileSystem} {opened : List Location}
    {context : SourceContext} {argument : String} {settings : Settings}
    (hincluded : included? fileSystem opened context argument = some settings) :
    (parseFile fileSystem (includePath context argument)).outcome = .ok settings := by
  obtain ⟨location, content, ⟨hlocation, -, hcontent⟩, hread⟩ :=
    included?_eq_some_iff.1 hincluded
  exact parseFile_outcome_eq_ok_iff.2
    ⟨location, content, ⟨hlocation, by simp, hcontent⟩, readNested_of_subset (by simp) hread⟩

/-! ## Values and sources -/

/-- What a text says is put together from what it and the texts within it say. -/
theorem assembled_readNested {fileSystem : FileSystem} {opened : List Location}
    {context : SourceContext} {content : String} {settings : Settings}
    (hread : (readNested fileSystem opened context content).outcome = .ok settings) :
    settings.Assembled := by
  rw [← toOption_eq_some_iff, toOption_readNested] at hread
  obtain ⟨-, nested, hnested, rfl⟩ := perform_eq_some_iff.1 hread
  refine assembled_merged (fun settings hmem => ?_) _
  obtain ⟨argument, hargument⟩ := exists_of_forall₂ hnested.flip hmem
  obtain ⟨location, text, hopens, hinside⟩ := included?_eq_some_iff.1 hargument
  have hclosed := hopens.2.1
  have htext := hopens.2.2
  exact assembled_readNested hinside
termination_by (fileSystem.locations.filter (· ∉ opened)).length
decreasing_by exact closed_length_lt (FileSystem.mem_locations_of_readAt htext) hclosed

theorem assembled_parse {fileSystem : FileSystem} {content source : String}
    {directory? : Option Path} {settings : Settings}
    (hparse : (parse fileSystem content directory? source).outcome = .ok settings) :
    settings.Assembled :=
  assembled_readNested hparse

theorem assembled_parseFile {fileSystem : FileSystem} {path : Path} {settings : Settings}
    (hparse : (parseFile fileSystem path).outcome = .ok settings) : settings.Assembled := by
  obtain ⟨location, content, -, hread⟩ := parseFile_outcome_eq_ok_iff.1 hparse
  exact assembled_readNested hread

end OptionsFile

end TypedOptions
