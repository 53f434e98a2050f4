import TypedOptions.Configuration
import TypedOptions.Proofs.OptionsFile.Merging
import TypedOptions.Proofs.OptionsFile.Values

/-!
# Dumps that are read again

A dump has one line for every setting, and a line with a name in front is an
assignment whatever the value looks like.  So a dump says what the settings
said if every value stands on one line of its own.  Otherwise a value comes
out differently, for the lines behind it cannot make up for what is lost: the
value of a line is trimmed, and if it goes on, what is added starts with the
name of the next setting.
-/

namespace TypedOptions

open Statement

/-! ## Lines of a dump -/

def dumpLine (key value : List Char) : List Char :=
  key ++ ' ' :: '=' :: ' ' :: value

def dumpText (entries : List (String × String)) : List Char :=
  entries.flatMap fun (key, value) => dumpLine key.toList value.toList ++ ['\n']

namespace Settings

theorem toList_dump (settings : Settings) : settings.dump.toList = dumpText settings.entries := by
  unfold dump dumpText
  rw [String.toList_join, List.flatMap_map]
  congr 1
  funext ⟨key, value⟩
  simp [dumpLine, toString]

theorem lookup_entries (settings : Settings) (key : String) :
    settings.entries.lookup key = settings.value? key := by
  ext value
  rw [lookup_eq_some_iff_mem settings.nodup_entries, mem_entries_iff]

theorem mem_of_mem_entries {settings : Settings} {entry : String × String}
    (hentry : entry ∈ settings.entries) : entry.1 ∈ settings :=
  mem_iff_exists_value?.2 ⟨entry.2, mem_entries_iff.1 hentry⟩

end Settings

namespace Statement

theorem trim_dumpLine {key : List Char} (hname : isName key = true) (value : List Char) :
    ∃ shown, Text.trim (dumpLine key value) = key ++ ' ' :: '=' :: shown ∧
      Text.trim shown = Text.trim value := by
  refine ⟨Text.trimEnd (' ' :: value), ?_, ?_⟩
  · have hcut := trim_append_of_isName (c := '=') hname [' '] (' ' :: value) (by decide)
    simpa [dumpLine] using hcut
  · rw [Text.trim_trimEnd, Text.trim_cons_of_isBlank value (by decide)]

/-- A line is an assignment if it starts with a name and a separator. -/
theorem read_trim_dumpLine {key : List Char} (hname : isName key = true) (value : List Char) :
    read (Text.trim (dumpLine key value)) =
      .assignment (String.ofList key) (Text.trim value) := by
  obtain ⟨shown, hline, hshown⟩ := trim_dumpLine hname value
  have hsplit : Text.splitFirst '=' (Text.trim (dumpLine key value)) =
      some (key ++ [' '], shown) := by
    have hnone : '=' ∉ key ++ [' '] := by
      have hkey := not_mem_of_isName (c := '=') hname (by decide) (by decide)
      simp [hkey]
    rw [hline]
    simpa using Text.splitFirst_append shown hnone
  have htrim : Text.trim (key ++ [' ']) = key := by
    rw [Text.trim_append_of_isBlank key (by decide), trim_of_isName hname]
  rw [read_of_splitFirst (Text.startsPlain_trim _) hsplit (htrim.symm ▸ hname), htrim, hshown]

theorem exists_lines_dumpText_cons {key value : String} (rest : List (String × String))
    (hname : isName key.toList = true) (hunbroken : '\n' ∉ value.toList) :
    ∃ shown, Text.lines (dumpText ((key, value) :: rest)) = shown :: Text.lines (dumpText rest) ∧
      Text.trim shown = Text.trim (dumpLine key.toList value.toList) := by
  have hline : '\n' ∉ dumpLine key.toList value.toList := by
    have hkey := not_mem_of_isName (c := '\n') hname (by decide) (by decide)
    simp [dumpLine, hkey, hunbroken]
  have hsplit := Text.exists_line_of_append_newline (dumpText rest) hline
  simpa [dumpText] using hsplit

theorem ofLines_dumpText_cons {key value : String} (rest : List (String × String))
    (hname : isName key.toList = true) (hunbroken : '\n' ∉ value.toList) :
    ofLines none (Text.lines (dumpText ((key, value) :: rest))) =
      withPart key [] (Text.trim value.toList) fun next? =>
        ofLines next? (Text.lines (dumpText rest)) := by
  obtain ⟨shown, hlines, htrim⟩ := exists_lines_dumpText_cons rest hname hunbroken
  rw [hlines, ofLines, htrim, read_trim_dumpLine hname, String.ofList_toList]

/-! ## Values that stand on one line -/

/-- A value that comes out of its line as it was put in. -/
structure OneLine (value : List Char) : Prop extends Legible value where
  finish : Text.EndsPlain value

theorem ofLines_dumpText {entries : List (String × String)}
    (hnames : ∀ entry ∈ entries, isName entry.1.toList = true)
    (hvalues : ∀ entry ∈ entries, OneLine entry.2.toList) :
    ofLines none (Text.lines (dumpText entries)) =
      entries.map fun (key, value) => .assignment key value.toList := by
  induction entries with
  | nil => rfl
  | cons entry rest ih =>
      obtain ⟨key, value⟩ := entry
      have hvalue : OneLine value.toList := hvalues (key, value) List.mem_cons_self
      rw [ofLines_dumpText_cons rest (hnames (key, value) List.mem_cons_self) hvalue.unbroken,
        Text.trim_eq_self hvalue.start hvalue.finish, withPart,
        splitContinuation_of_not_lone hvalue.complete]
      rw [List.map_cons, ← ih (fun other hother => hnames other (List.mem_cons_of_mem _ hother))
        (fun other hother => hvalues other (List.mem_cons_of_mem _ hother))]
      rfl

theorem assignments_map_assignment (entries : List (String × String)) :
    assignments "" (entries.map fun (key, value) => .assignment key value.toList) = entries := by
  induction entries with
  | nil => rfl
  | cons entry rest ih =>
      rw [List.map_cons, assignments, ih, OptionName.qualify_empty, String.ofList_toList]

theorem inclusions_map_assignment (entries : List (String × String)) :
    inclusions (entries.map fun (key, value) => .assignment key value.toList) = [] := by
  simp [inclusions, argument?]

/-! ## Values that do not -/

theorem exists_ofLines_some (key : String) (value : List Char) (lines : List (List Char)) :
    ∃ more later, ofLines (some (key, value)) lines = .assignment key (value ++ more) :: later := by
  induction lines generalizing value with
  | nil => exact ⟨[], [], by simp [ofLines]⟩
  | cons line rest ih =>
      rw [ofLines, withPart]
      rcases splitContinuation (Text.trim line) with ⟨cut, goesOn⟩
      cases goesOn with
      | false => exact ⟨cut, _, rfl⟩
      | true =>
          obtain ⟨more, later, hmore⟩ := ih (value ++ cut)
          exact ⟨cut ++ more, later, by rw [← List.append_assoc]; exact hmore⟩

/-- A value that goes on in a dump is followed by the name of the next setting, if there is one. -/
theorem exists_ofLines_dumpText_some {entries : List (String × String)} (key : String)
    (value : List Char) (hnames : ∀ entry ∈ entries, isName entry.1.toList = true)
    (hunbroken : ∀ entry ∈ entries, '\n' ∉ entry.2.toList) :
    ∃ more later,
      ofLines (some (key, value)) (Text.lines (dumpText entries)) =
        .assignment key (value ++ more) :: later ∧ ∀ c ∈ more.head?, isNameChar c = true := by
  cases entries with
  | nil => exact ⟨[], [], by simp [dumpText, ofLines], by simp⟩
  | cons entry rest =>
      obtain ⟨name, shown⟩ := entry
      have hname : isName name.toList = true := hnames (name, shown) List.mem_cons_self
      obtain ⟨line, hlines, htrim⟩ :=
        exists_lines_dumpText_cons rest hname (hunbroken (name, shown) List.mem_cons_self)
      obtain ⟨c, tail, hpart, hc⟩ : ∃ c tail, Text.trim line = c :: tail ∧ isNameChar c = true := by
        obtain ⟨c, tail, hcons, hc⟩ := exists_cons_of_isName hname
        obtain ⟨after, hafter, -⟩ := trim_dumpLine hname shown.toList
        rw [htrim, hafter, hcons]
        exact ⟨c, _, rfl, hc⟩
      rw [hlines, ofLines, withPart]
      rcases splitContinuation_cases (Text.trim line) with ⟨-, hsplit⟩ | ⟨cut, hcut, -, hsplit⟩
      · rw [hsplit, hpart]
        exact ⟨c :: tail, _, rfl, by simpa using hc⟩
      · rw [hsplit]
        obtain ⟨more, later, hmore⟩ := exists_ofLines_some key (value ++ cut) _
        refine ⟨cut ++ more, later, by rw [← List.append_assoc]; exact hmore, ?_⟩
        rw [hpart] at hcut
        cases cut with
        | nil =>
            obtain ⟨rfl, -⟩ := List.cons.inj hcut
            exact absurd hc (by decide)
        | cons first others =>
            obtain ⟨rfl, -⟩ := List.cons.inj hcut
            simpa using hc

/-- A line assigns its value as it was put in only if the value does not end in white space, and
then the next line starts a statement of its own. -/
theorem exists_ofLines_dumpText_cons {key value : String} {rest : List (String × String)}
    (hname : isName key.toList = true) (hvalue : Legible value.toList)
    (hnames : ∀ entry ∈ rest, isName entry.1.toList = true)
    (hunbroken : ∀ entry ∈ rest, '\n' ∉ entry.2.toList) :
    ∃ shown later,
      ofLines none (Text.lines (dumpText ((key, value) :: rest))) = .assignment key shown :: later ∧
        (shown = value.toList → Text.EndsPlain value.toList ∧
          later = ofLines none (Text.lines (dumpText rest))) := by
  rw [ofLines_dumpText_cons rest hname hvalue.unbroken, withPart]
  rcases splitContinuation_cases (Text.trim value.toList) with
    ⟨-, hsplit⟩ | ⟨cut, hcut, -, hsplit⟩
  · rw [hsplit]
    refine ⟨Text.trim value.toList, _, rfl, fun hsame => ⟨?_, rfl⟩⟩
    rw [← hsame]
    exact Text.endsPlain_trim _
  · obtain ⟨more, later, hmore, hhead⟩ := exists_ofLines_dumpText_some key cut hnames hunbroken
    rw [hsplit]
    refine ⟨cut ++ more, later, hmore, fun hsame => ?_⟩
    -- The value has its mark where the name of the next setting is read.
    obtain ⟨after, hafter⟩ : cut ++ ['\\'] <+: value.toList := by
      rw [← hcut, Text.trim_of_startsPlain hvalue.start]
      exact Text.isPrefix_trimEnd _
    rw [← hsame, List.append_assoc, List.append_cancel_left_eq] at hafter
    have hmark : isNameChar '\\' = true := hhead '\\' (by rw [← hafter]; rfl)
    exact absurd hmark (by decide)

/-- If every key has its own value where it is assigned, no value has lost its end. -/
theorem endsPlain_of_lookup {entries : List (String × String)}
    (hnames : ∀ entry ∈ entries, isName entry.1.toList = true)
    (hlegible : ∀ entry ∈ entries, Legible entry.2.toList)
    (hdistinct : (entries.map Prod.fst).Nodup)
    (hagrees : ∀ key value, (key, value) ∈ entries → ∀ other,
      (assignments "" (ofLines none (Text.lines (dumpText entries)))).lookup key = some other →
        other = value) :
    ∀ entry ∈ entries, Text.EndsPlain entry.2.toList := by
  induction entries with
  | nil => exact fun entry hentry => absurd hentry List.not_mem_nil
  | cons entry rest ih =>
      obtain ⟨key, value⟩ := entry
      have hrestNames : ∀ other ∈ rest, isName other.1.toList = true := fun other hother =>
        hnames other (List.mem_cons_of_mem _ hother)
      have hrestLegible : ∀ other ∈ rest, Legible other.2.toList := fun other hother =>
        hlegible other (List.mem_cons_of_mem _ hother)
      rw [List.map_cons, List.nodup_cons] at hdistinct
      obtain ⟨shown, later, hstatements, hshown⟩ :=
        exists_ofLines_dumpText_cons (hnames (key, value) List.mem_cons_self)
          (hlegible (key, value) List.mem_cons_self) hrestNames
          fun other hother => (hrestLegible other hother).unbroken
      rw [hstatements, assignments, OptionName.qualify_empty] at hagrees
      have hsame : String.ofList shown = value :=
        hagrees key value List.mem_cons_self _ (by simp)
      obtain ⟨hfirst, rfl⟩ := hshown (by rw [← hsame, String.toList_ofList])
      have hrest := ih hrestNames hrestLegible hdistinct.2 fun name text hmem other hother => by
        refine hagrees name text (List.mem_cons_of_mem _ hmem) other ?_
        have hne : name ≠ key := by
          rintro rfl
          exact hdistinct.1 (List.mem_map.2 ⟨(name, text), hmem, rfl⟩)
        rw [List.lookup_cons, beq_eq_false_iff_ne.2 hne]
        exact hother
      intro other hother
      rcases List.mem_cons.1 hother with rfl | hmem
      · exact hfirst
      · exact hrest other hmem

end Statement

namespace OptionsFile

variable {settings : Settings} (fileSystem : FileSystem) (directory? : Option Path)
  (source : String)

theorem parse_dump (hnames : ∀ name ∈ settings, isName name.toList = true)
    (hvalues : ∀ name value, settings.value? name = some value → OneLine value.toList) :
    ∃ reread, (parse fileSystem settings.dump directory? source).outcome = .ok reread ∧
      ∀ name, reread.value? name = settings.value? name := by
  have hstatements : ofText settings.dump =
      settings.entries.map fun (key, value) => .assignment key value.toList := by
    rw [ofText, Settings.toList_dump]
    refine ofLines_dumpText (fun entry hentry => ?_) fun entry hentry => ?_
    · exact hnames entry.1 (Settings.mem_of_mem_entries hentry)
    · exact hvalues entry.1 entry.2 (Settings.mem_entries_iff.1 hentry)
  have hassignments : assignments "" (ofText settings.dump) = settings.entries := by
    rw [hstatements, assignments_map_assignment]
  have hsound : Sound "" ∅ (ofText settings.dump) := by
    refine ⟨fun fault hfault => ?_, ?_, by simp⟩
    · rw [hstatements] at hfault
      obtain ⟨entry, -, heq⟩ := List.mem_map.1 hfault
      cases heq
    · rw [hassignments]
      exact settings.nodup_entries
  refine ⟨merged (.path ⟨source⟩) ∅ ∅ [] settings.entries, ?_, fun name => ?_⟩
  · rw [parse, ← toOption_eq_some_iff, toOption_readNested, perform_eq_some_iff]
    refine ⟨hsound, [], ?_, by rw [hassignments]; rfl⟩
    rw [hstatements, inclusions_map_assignment]
    exact .nil
  · rw [value?_merged settings.nodup_entries, Settings.lookup_entries]
    simp

theorem oneLine_of_parse_dump (hnames : ∀ name ∈ settings, isName name.toList = true)
    {reread : Settings}
    (hparse : (parse fileSystem settings.dump directory? source).outcome = .ok reread)
    (hsame : ∀ name, reread.value? name = settings.value? name) {name value : String}
    (hvalue : settings.value? name = some value) : OneLine value.toList := by
  unfold parse at hparse
  have hlegible : ∀ entry ∈ settings.entries, Legible entry.2.toList := fun entry hentry =>
    (legible_of_readNested_ok hparse ((hsame entry.1).trans
      (Settings.mem_entries_iff.1 hentry))).2
  have hmem : (name, value) ∈ settings.entries := Settings.mem_entries_iff.2 hvalue
  refine ⟨hlegible _ hmem, ?_⟩
  rw [← toOption_eq_some_iff, toOption_readNested, perform_eq_some_iff] at hparse
  obtain ⟨hsound, nested, -, rfl⟩ := hparse
  rw [ofText, Settings.toList_dump] at hsame hsound
  refine endsPlain_of_lookup
    (fun entry hentry => hnames entry.1 (Settings.mem_of_mem_entries hentry)) hlegible
    settings.nodup_entries (fun key text hentry other hother => ?_) _ hmem
  have hresult := hsame key
  rw [value?_merged hsound.distinct, hother, Option.some_or,
    Settings.mem_entries_iff.1 hentry] at hresult
  exact Option.some.inj hresult

end OptionsFile

namespace Configuration

open OptionsFile

/-- If all names are well-formed, the dump of a configuration is read as what the configuration
holds exactly if every value stands on one line of its own: without newlines, without white space
at its ends, and without a lone backslash at the end. -/
theorem dump_reread_iff {config : Configuration}
    (hnames : ∀ name ∈ config.settings, isName name.toList = true) (fileSystem : FileSystem)
    (directory? : Option Path) (source : String) :
    (∃ reread, (parse fileSystem config.dump directory? source).outcome = .ok reread ∧
        ∀ name, reread.value? name = config.settings.value? name) ↔
      ∀ name value, config.settings.value? name = some value → OneLine value.toList := by
  constructor
  · rintro ⟨reread, hparse, hsame⟩ name value hvalue
    exact oneLine_of_parse_dump fileSystem directory? source hnames hparse hsame hvalue
  · intro hvalues
    exact parse_dump fileSystem directory? source hnames hvalues

/-- Values that look like comments, sections, inclusions and assignments, an empty one, and one
that ends in two backslashes. -/
def dumpSample : Configuration :=
  { Configuration.empty "r" false 0 (.memory .empty) with
    settings := .ofSettings [("a.b", ⟨"# x = [y] // z", .manual⟩), ("c", ⟨"", .manual⟩),
      ("d", ⟨"#include d\\\\", .path ⟨"/d"⟩⟩), ("e", ⟨"[e]", .manual⟩)] }

/-- A value that ends in one backslash, behind which the next setting would go on. -/
def lossySample : Configuration :=
  { dumpSample with settings := .ofSettings [("a", ⟨"x\\", .manual⟩), ("b", ⟨"y", .manual⟩)] }

theorem isName_of_keys {settings : Settings}
    (hkeys : ∀ name ∈ settings.keys, isName name.toList = true) :
    ∀ name ∈ settings, isName name.toList = true := fun name hname =>
  hkeys name (Settings.mem_keys.2 hname)

theorem dump_reread_iff_sample :
    (∀ name value, dumpSample.settings.value? name = some value → OneLine value.toList) ∧
      ¬∃ reread, (parse (.memory .empty) lossySample.dump none "dump").outcome = .ok reread ∧
        ∀ name, reread.value? name = lossySample.settings.value? name := by
  have hnames : ∀ name ∈ dumpSample.settings, isName name.toList = true :=
    isName_of_keys (by decide +kernel)
  have hlossyNames : ∀ name ∈ lossySample.settings, isName name.toList = true :=
    isName_of_keys (by decide +kernel)
  have hreread : (parse (.memory .empty) dumpSample.dump none "dump").outcome.toOption.map
      Settings.entries = some dumpSample.settings.entries := by
    decide +kernel
  obtain ⟨reread, hparse, hentries⟩ := Option.map_eq_some_iff.1 hreread
  rw [toOption_eq_some_iff] at hparse
  constructor
  · refine (dump_reread_iff hnames (.memory .empty) none "dump").1 ⟨reread, hparse, fun name => ?_⟩
    rw [← Settings.lookup_entries, hentries, Settings.lookup_entries]
  · intro hlossy
    have hvalues := (dump_reread_iff hlossyNames (.memory .empty) none "dump").1 hlossy
    have hvalue : OneLine ['x', '\\'] := hvalues "a" "x\\" (by decide +kernel)
    exact hvalue.complete ⟨['x'], rfl, by decide⟩

end Configuration

end TypedOptions
