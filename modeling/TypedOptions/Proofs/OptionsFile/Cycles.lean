import Mathlib.Data.List.Nodup
import TypedOptions.Proofs.OptionsFile.Merging
import TypedOptions.Proofs.OptionsFile.Nesting
import TypedOptions.Proofs.Path.Normal

/-!
# Cycles of inclusions

Files in memory that include each other form a graph between places, so it
does not matter how a path to a place is spelled.  A text from which a cycle
can be reached fails, and an inclusion is called circular only where it closes
a cycle: a file may be included as often as one likes side by side.
-/

namespace TypedOptions

def MemoryFiles.count (files : MemoryFiles) : Nat :=
  (files.files.map Prod.fst).dedup.length

namespace OptionsFile

open Statement

/-- The file of the first place includes a path that leads to the second one. -/
def Leads (files : MemoryFiles) (outer inner : Location) : Prop :=
  ∃ content, files.fileAt? outer = some content ∧
    ∃ path ∈ includedPaths ⟨outer.path.text, outer.path.parent?⟩ content, path.names = inner

/-- A place that can be reached from the first ones leads to itself. -/
def HasCycle (files : MemoryFiles) (first : Location → Prop) : Prop :=
  ∃ start location, first start ∧ Relation.ReflTransGen (Leads files) start location ∧
    Relation.TransGen (Leads files) location location

variable {files : MemoryFiles} {text inner : OpenText} {location : Location}
  {first : Location → Prop}

theorem path_names (path : Path) : Location.path path.names = path.normal :=
  rfl

theorem locate_memory {path : Path}
    (hlocate : (FileSystem.memory files).locate path = .ok location) : location = path.names := by
  simp only [FileSystem.locate] at hlocate
  split at hlocate
  · cases hlocate
    rfl
  · cases hlocate

theorem mem_includedPaths {context : SourceContext} {content : String} {path : Path} :
    path ∈ includedPaths context content ↔
      ∃ argument ∈ inclusions (ofText content), includePath context argument = path :=
  List.mem_map

/-! ## Texts of files -/

/-- The text is that of the file of a place, which is open. -/
structure IsFile (files : MemoryFiles) (text : OpenText) (location : Location) : Prop where
  isOpen : location ∈ text.opened
  directory : text.context.directory? = location.path.parent?
  content : files.fileAt? location = some text.content

theorem isFile_inside {path : Path} {content : String}
    (hcontent : files.fileAt? location = some content) :
    IsFile files (text.inside path location content) location :=
  ⟨List.mem_cons_self, rfl, hcontent⟩

theorem includedPaths_of_isFile (hfile : IsFile files text location) :
    includedPaths text.context text.content =
      includedPaths ⟨location.path.text, location.path.parent?⟩ text.content := by
  unfold includedPaths includePath
  rw [hfile.directory]

theorem leads_of_isFile (hfile : IsFile files text location) {path : Path}
    (hpath : path ∈ includedPaths text.context text.content) : Leads files location path.names := by
  rw [includedPaths_of_isFile hfile] at hpath
  exact ⟨text.content, hfile.content, path, hpath, rfl⟩

/-- Only places that paths lead to are open. -/
def IsNamed (text : OpenText) : Prop :=
  ∀ location ∈ text.opened, ∃ path : Path, path.names = location

theorem isNamed_of_nests (hnests : text.Nests (.memory files) inner) (hnamed : IsNamed text) :
    IsNamed inner := by
  obtain ⟨argument, -, location, content, hopens, rfl⟩ := hnests
  obtain ⟨rfl, -, -⟩ := opens_memory_iff.1 hopens
  intro other hother
  rcases List.mem_cons.1 hother with rfl | hearlier
  · exact ⟨_, rfl⟩
  · exact hnamed other hearlier

/-- Places that paths lead to are told apart by their normal paths. -/
theorem nodup_paths (hnamed : IsNamed text) (hnodup : text.opened.Nodup) :
    (text.opened.map Location.path).Nodup := by
  apply List.Nodup.map_on _ hnodup
  intro first hfirst second hsecond hsame
  obtain ⟨path, rfl⟩ := hnamed first hfirst
  obtain ⟨other, rfl⟩ := hnamed second hsecond
  calc path.names = path.normal.names := (Path.names_normal path).symm
    _ = other.normal.names := congrArg Path.names hsame
    _ = other.names := Path.names_normal other

/-! ## Cycles make texts fail -/

theorem exists_isFile_of_read_ok {settings : Settings} {path : Path}
    (hread : (text.read (.memory files)).outcome = .ok settings)
    (hpath : path ∈ includedPaths text.context text.content) :
    path.names ∉ text.opened ∧ ∃ inner nested, IsFile files inner path.names ∧
      text.opened ⊆ inner.opened ∧ (inner.read (.memory files)).outcome = .ok nested := by
  obtain ⟨argument, hargument, rfl⟩ := mem_includedPaths.1 hpath
  obtain ⟨location, content, nested, hopens, hnested⟩ :=
    OpenText.exists_nests_of_read_ok hread hargument
  obtain ⟨rfl, hclosed, hcontent⟩ := opens_memory_iff.1 hopens
  exact ⟨hclosed, _, nested, isFile_inside hcontent, List.subset_cons_self _ _, hnested⟩

theorem exists_isFile_of_leads {settings : Settings} {next : Location}
    (hfile : IsFile files text location)
    (hread : (text.read (.memory files)).outcome = .ok settings)
    (hleads : Leads files location next) :
    next ∉ text.opened ∧ ∃ inner nested, IsFile files inner next ∧
      text.opened ⊆ inner.opened ∧ (inner.read (.memory files)).outcome = .ok nested := by
  obtain ⟨content, hcontent, path, hpath, rfl⟩ := hleads
  rw [hfile.content] at hcontent
  cases hcontent
  rw [← includedPaths_of_isFile hfile] at hpath
  exact exists_isFile_of_read_ok hread hpath

theorem not_mem_opened_of_transGen {settings : Settings} {last : Location}
    (hfile : IsFile files text location)
    (hread : (text.read (.memory files)).outcome = .ok settings)
    (hleads : Relation.TransGen (Leads files) location last) : last ∉ text.opened := by
  induction hleads using Relation.TransGen.head_induction_on generalizing text settings with
  | single hstep => exact (exists_isFile_of_leads hfile hread hstep).1
  | head hstep _ ih =>
      obtain ⟨-, inner, nested, hinner, hsubset, hnested⟩ :=
        exists_isFile_of_leads hfile hread hstep
      exact fun hmem => ih hinner hnested (hsubset hmem)

theorem exists_isFile_of_reflTransGen {settings : Settings} {last : Location}
    (hfile : IsFile files text location)
    (hread : (text.read (.memory files)).outcome = .ok settings)
    (hleads : Relation.ReflTransGen (Leads files) location last) :
    ∃ inner nested, IsFile files inner last ∧
      (inner.read (.memory files)).outcome = .ok nested := by
  induction hleads using Relation.ReflTransGen.head_induction_on generalizing text settings with
  | refl => exact ⟨text, settings, hfile, hread⟩
  | head hstep _ ih =>
      obtain ⟨-, inner, nested, hinner, -, hnested⟩ := exists_isFile_of_leads hfile hread hstep
      exact ih hinner hnested

/-- A file whose text succeeds leads to no cycle, since the places of a cycle would be open when
it comes round to them. -/
theorem not_cycle_of_read_ok {settings : Settings} {last : Location}
    (hfile : IsFile files text location)
    (hread : (text.read (.memory files)).outcome = .ok settings)
    (hleads : Relation.ReflTransGen (Leads files) location last) :
    ¬Relation.TransGen (Leads files) last last := by
  intro hcycle
  obtain ⟨inner, nested, hinner, hnested⟩ := exists_isFile_of_reflTransGen hfile hread hleads
  exact not_mem_opened_of_transGen hinner hnested hcycle hinner.isOpen

/-! ## Circular inclusions are cycles -/

/-- Everything that is open leads to all that the text includes, and it can be reached from the
first places. -/
structure Connected (files : MemoryFiles) (first : Location → Prop) (text : OpenText) : Prop where
  outgoing : ∀ path ∈ includedPaths text.context text.content, ∀ location ∈ text.opened,
    Relation.TransGen (Leads files) location path.names
  reached : ∀ location ∈ text.opened, ∃ start, first start ∧
    Relation.ReflTransGen (Leads files) start location
  following : ∀ path ∈ includedPaths text.context text.content, ∃ start, first start ∧
    Relation.ReflTransGen (Leads files) start path.names

theorem Connected.nests (hconnected : Connected files first text)
    (hnests : text.Nests (.memory files) inner) : Connected files first inner := by
  obtain ⟨argument, hargument, location, content, hopens, rfl⟩ := hnests
  obtain ⟨rfl, -, hcontent⟩ := opens_memory_iff.1 hopens
  have hpath : includePath text.context argument ∈ includedPaths text.context text.content :=
    mem_includedPaths.2 ⟨argument, hargument, rfl⟩
  have hfile : IsFile files
      (text.inside (includePath text.context argument) (includePath text.context argument).names
        content) (includePath text.context argument).names :=
    isFile_inside hcontent
  obtain ⟨start, hstart, hfollowing⟩ := hconnected.following _ hpath
  constructor
  · intro path hinner location hlocation
    have hstep := leads_of_isFile hfile hinner
    rcases List.mem_cons.1 hlocation with rfl | hearlier
    · exact .single hstep
    · exact (hconnected.outgoing _ hpath location hearlier).tail hstep
  · intro location hlocation
    rcases List.mem_cons.1 hlocation with rfl | hearlier
    · exact ⟨start, hstart, hfollowing⟩
    · exact hconnected.reached location hearlier
  · intro path hinner
    exact ⟨start, hstart, hfollowing.tail (leads_of_isFile hfile hinner)⟩

theorem Connected.hasCycle (hconnected : Connected files first text) {number : Nat}
    {shown : String} (hcircular : text.Circular (.memory files) number shown) :
    HasCycle files first := by
  obtain ⟨line, argument, location, -, hincludes, hlocate, hopen⟩ := hcircular
  have hpath : includePath text.context argument ∈ includedPaths text.context text.content :=
    mem_includedPaths.2 ⟨argument, hincludes.mem_inclusions, rfl⟩
  have hcycle := hconnected.outgoing _ hpath location hopen
  rw [← locate_memory hlocate] at hcycle
  obtain ⟨start, hstart, hreached⟩ := hconnected.reached location hopen
  exact ⟨start, location, hstart, hreached, hcycle⟩

/-! ## Whole texts and files -/

/-- Reading goes no deeper than there are files, on a way where no canonical path comes twice.  It
fails if it comes to a cycle, and it fails for a circular inclusion only where the named file is
open, which takes a cycle. -/
structure Guarded (files : MemoryFiles) (start : OpenText) (first : Location → Prop)
    (reading : Reading Settings) : Prop where
  bounded : ∀ beyond, reading =
    OpenText.readWithin (.memory files) beyond (files.count + 1 - start.opened.length) start
  distinct : ∀ text, start.Reaches (.memory files) text →
    (text.opened.map Location.path).Nodup ∧ text.opened.length ≤ files.count
  cyclic : HasCycle files first → ∃ error, reading.outcome = .error error
  circular : ∀ source number shown,
    reading.outcome = .error (.line .circularInclusion source number shown) →
      ∃ text, start.Reaches (.memory files) text ∧
        (text.read (.memory files)).outcome =
          .error (.line .circularInclusion source number shown) ∧
        text.context.name = source ∧ text.Circular (.memory files) number shown
  acyclic : ¬HasCycle files first → ∀ source number shown,
    reading.outcome ≠ .error (.line .circularInclusion source number shown)

/-- How a text is when its reading begins. -/
structure Begins (files : MemoryFiles) (first : Location → Prop) (text : OpenText) : Prop where
  distinct : text.Distinct (.memory files)
  isNamed : IsNamed text
  connected : Connected files first text
  cyclic : ∀ settings, (text.read (.memory files)).outcome = .ok settings →
    ¬HasCycle files first

theorem Begins.guarded (hbegins : Begins files first text) :
    Guarded files text first (text.read (.memory files)) := by
  have hcount : (FileSystem.memory files).locations.dedup.length = files.count := rfl
  constructor
  · intro beyond
    have hclosed := hbegins.distinct.opened_add_closed_le
    have hdepth : text.closed (.memory files) < files.count + 1 - text.opened.length := by omega
    rw [OpenText.readWithin_eq_read beyond hdepth]
  · intro inner hreaches
    have hdistinct := hreaches.preserves (fun _ _ hnests houter => houter.nests hnests)
      hbegins.distinct
    have hnamed := hreaches.preserves (fun _ _ => isNamed_of_nests) hbegins.isNamed
    have hlength := hdistinct.opened_add_closed_le
    exact ⟨nodup_paths hnamed hdistinct.nodup, by omega⟩
  · intro hcycle
    cases houtcome : (text.read (.memory files)).outcome with
    | ok settings => exact absurd hcycle (hbegins.cyclic settings houtcome)
    | error cause => exact ⟨cause, rfl⟩
  · intro source number shown herror
    exact OpenText.exists_circular herror
  · intro hacyclic source number shown herror
    obtain ⟨inner, hreaches, -, -, hinner⟩ := OpenText.exists_circular herror
    have hconnected := hreaches.preserves (fun _ _ hnests houter => houter.nests hnests)
      hbegins.connected
    exact hacyclic (hconnected.hasCycle hinner)

/-- The places of the files that a text includes. -/
def Included (context : SourceContext) (content : String) (location : Location) : Prop :=
  ∃ path ∈ includedPaths context content, path.names = location

theorem begins_text (files : MemoryFiles) (context : SourceContext) (content : String) :
    Begins files (Included context content) ⟨[], context, content⟩ := by
  constructor
  · exact ⟨List.nodup_nil, List.nil_subset _⟩
  · exact fun location hlocation => absurd hlocation List.not_mem_nil
  · constructor
    · exact fun path hpath location hlocation => absurd hlocation List.not_mem_nil
    · exact fun location hlocation => absurd hlocation List.not_mem_nil
    · exact fun path hpath => ⟨path.names, ⟨path, hpath, rfl⟩, .refl⟩
  · rintro settings hread ⟨start, location, ⟨path, hpath, rfl⟩, hreached, hcycle⟩
    obtain ⟨-, inner, nested, hfile, -, hnested⟩ := exists_isFile_of_read_ok hread hpath
    exact not_cycle_of_read_ok hfile hnested hreached hcycle

theorem begins_file {path : Path} {content : String}
    (hcontent : files.fileAt? path.names = some content) :
    Begins files (· = path.names)
      ⟨[path.names], ⟨path.text, path.normal.parent?⟩, content⟩ := by
  have hfile : IsFile files ⟨[path.names], ⟨path.text, path.normal.parent?⟩, content⟩
      path.names :=
    ⟨List.mem_cons_self, by rw [path_names], hcontent⟩
  constructor
  · constructor
    · exact List.nodup_singleton _
    · intro location hlocation
      rw [List.mem_singleton.1 hlocation]
      exact MemoryFiles.mem_files_of_fileAt? hcontent
  · intro location hlocation
    exact ⟨path, (List.mem_singleton.1 hlocation).symm⟩
  · constructor
    · intro inner hinner location hlocation
      rw [List.mem_singleton.1 hlocation]
      exact .single (leads_of_isFile hfile hinner)
    · intro location hlocation
      exact ⟨path.names, rfl, List.mem_singleton.1 hlocation ▸ .refl⟩
    · exact fun inner hinner => ⟨path.names, rfl, .single (leads_of_isFile hfile hinner)⟩
  · rintro settings hread ⟨start, location, rfl, hreached, hcycle⟩
    exact not_cycle_of_read_ok hfile hread hreached hcycle

theorem parseFile_memory {path : Path} {content : String}
    (hcontent : files.fileAt? path.names = some content) :
    parseFile (.memory files) path =
      readNested (.memory files) [path.names] ⟨path.text, path.normal.parent?⟩ content := by
  have hlocate : (FileSystem.memory files).locate path = .ok path.names := by
    simp [FileSystem.locate, MemoryFiles.fileTypeAt?, hcontent]
  have hread : (FileSystem.memory files).readAt path.normal path.names = .ok content := by
    simp [FileSystem.readAt, hcontent]
  simp only [parseFile, hlocate, path_names, hread]

theorem parseFile_memory_of_none {path : Path} (hnone : files.fileAt? path.names = none) :
    ∃ cause, parseFile (.memory files) path = .fail (.unreadableFile path cause) := by
  unfold parseFile
  cases hlocate : (FileSystem.memory files).locate path with
  | error cause => exact ⟨cause, rfl⟩
  | ok location =>
      have hread : (FileSystem.memory files).readAt path.normal path.names =
          .error (.absent path.normal) := by
        simp [FileSystem.readAt, hnone]
      simp only [locate_memory hlocate, path_names, hread]
      exact ⟨.absent path.normal, rfl⟩

/-- Texts and files in memory are read to an end, whatever files include each other, and exactly
cycles make inclusions circular. -/
theorem inclusions_guarded (files : MemoryFiles) :
    (∀ content directory? source,
      Guarded files ⟨[], ⟨source, directory?⟩, content⟩ (Included ⟨source, directory?⟩ content)
        (parse (.memory files) content directory? source)) ∧
    ∀ path,
      (∀ content, files.fileAt? path.names = some content →
        Guarded files ⟨[path.names], ⟨path.text, path.normal.parent?⟩, content⟩ (· = path.names)
          (parseFile (.memory files) path)) ∧
      (files.fileAt? path.names = none →
        ∃ cause, parseFile (.memory files) path = .fail (.unreadableFile path cause)) := by
  constructor
  · intro content directory? source
    exact (begins_text files ⟨source, directory?⟩ content).guarded
  · intro path
    constructor
    · intro content hcontent
      rw [parseFile_memory hcontent]
      exact (begins_file hcontent).guarded
    · exact parseFile_memory_of_none

/-- Two files in a ring, and a file that is included twice and from two sides. -/
def ringFiles : MemoryFiles :=
  ((((MemoryFiles.empty.withFile ⟨"/c/a"⟩ "x = 1\n#include sub/../b\n").withFile ⟨"/c/b"⟩
    "#include ../c/./a\n").withFile ⟨"/c/top"⟩ "#include left\n#include base\n").withFile
    ⟨"/c/left"⟩ "#include base\n#include base\n").withFile ⟨"/c/base"⟩ "y = 2\n"

theorem leads_ringFiles {outer : Location} {content : String} (path : Path)
    (hcontent : ringFiles.fileAt? outer = some content)
    (hpaths : includedPaths ⟨outer.path.text, outer.path.parent?⟩ content = [path]) :
    Leads ringFiles outer path.names :=
  ⟨content, hcontent, path, hpaths ▸ List.mem_cons_self, rfl⟩

theorem inclusions_guarded_sample :
    (HasCycle ringFiles (Included ⟨"inline", some ⟨"/c"⟩⟩ "#include b\n") ∧
      ∃ error, (parse (.memory ringFiles) "#include b\n" (some ⟨"/c"⟩) "inline").outcome =
        .error error) ∧
    ((parseFile (.memory ringFiles) ⟨"/c/./a"⟩).outcome =
        .error (.line .circularInclusion "/c/sub/../b" 1 "#include ../c/./a") ∧
      ∃ text : OpenText, text.Circular (.memory ringFiles) 1 "#include ../c/./a" ∧
        text.context.name = "/c/sub/../b" ∧ text.opened.length ≤ ringFiles.count) ∧
    (¬HasCycle ringFiles (· = ["c", "top"]) ∧ ∀ source number shown,
      (parseFile (.memory ringFiles) ⟨"/c/top"⟩).outcome ≠
        .error (.line .circularInclusion source number shown)) ∧
    ∃ cause, parseFile (.memory ringFiles) ⟨"/c/none"⟩ =
      .fail (.unreadableFile ⟨"/c/none"⟩ cause) := by
  obtain ⟨htexts, hfiles⟩ := inclusions_guarded ringFiles
  have hfirst : Leads ringFiles ["c", "a"] ["c", "b"] :=
    leads_ringFiles ⟨"/c/sub/../b"⟩ rfl (by decide +kernel)
  have hback : Leads ringFiles ["c", "b"] ["c", "a"] :=
    leads_ringFiles ⟨"/c/../c/./a"⟩ rfl (by decide +kernel)
  have hcycle : HasCycle ringFiles (Included ⟨"inline", some ⟨"/c"⟩⟩ "#include b\n") :=
    ⟨["c", "b"], ["c", "b"], ⟨⟨"/c/b"⟩, by decide +kernel, by decide⟩, .refl,
      .tail (.single hback) hfirst⟩
  have hring := (hfiles ⟨"/c/./a"⟩).1 _ (by rfl)
  have hcircular : (parseFile (.memory ringFiles) ⟨"/c/./a"⟩).outcome =
      .error (.line .circularInclusion "/c/sub/../b" 1 "#include ../c/./a") :=
    error?_eq_some_iff.1 (by decide +kernel)
  obtain ⟨text, hreaches, -, hname, htext⟩ := hring.circular _ _ _ hcircular
  have htop := (hfiles ⟨"/c/top"⟩).1 _ (by rfl)
  have hacyclic : ¬HasCycle ringFiles (· = ["c", "top"]) := by
    intro hcycle
    obtain ⟨error, herror⟩ := htop.cyclic hcycle
    have hsucceeds : (parseFile (.memory ringFiles) ⟨"/c/top"⟩).outcome.toOption.isSome = true := by
      decide +kernel
    rw [herror] at hsucceeds
    cases hsucceeds
  have hfails := (htexts "#include b\n" (some ⟨"/c"⟩) "inline").cyclic hcycle
  have hlength := (hring.distinct text hreaches).2
  have hmissing := (hfiles ⟨"/c/none"⟩).2 (by decide +kernel)
  exact ⟨⟨hcycle, hfails⟩, ⟨hcircular, text, htext, hname, hlength⟩,
    ⟨hacyclic, htop.acyclic hacyclic⟩, hmissing⟩

end OptionsFile

end TypedOptions
