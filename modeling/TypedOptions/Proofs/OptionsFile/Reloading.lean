import TypedOptions.Proofs.Builder.Building
import TypedOptions.Proofs.OptionsFile.Dump

/-!
# Dumps of what was read

Settings that were read have names and values of the forms that texts give, so
a dump of them loses nothing but white space at the end of a value.  There is
some if a continuation mark stands behind white space and the line after it
has nothing to say.  In the dump nothing is left of the mark: the white space is
trimmed away, and what stood before it may then end in a mark itself.
-/

namespace TypedOptions

namespace OptionsFile

open Statement

/-- Settings that a text or a file gives, with all that it includes. -/
def Gives (fileSystem : FileSystem) (settings : Settings) : Prop :=
  (∃ content directory? source,
    (parse fileSystem content directory? source).outcome = .ok settings) ∨
  ∃ path, (parseFile fileSystem path).outcome = .ok settings

variable {fileSystem : FileSystem} {settings : Settings}

theorem Gives.exists_readNested (hgives : Gives fileSystem settings) :
    ∃ opened context content,
      (readNested fileSystem opened context content).outcome = .ok settings := by
  rcases hgives with ⟨content, directory?, source, hparse⟩ | ⟨path, hparse⟩
  · exact ⟨_, _, content, hparse⟩
  · obtain ⟨location, content, -, hread⟩ := parseFile_outcome_eq_ok_iff.1 hparse
    exact ⟨_, _, content, hread⟩

theorem Gives.legible (hgives : Gives fileSystem settings) {name value : String}
    (hvalue : settings.value? name = some value) :
    isName name.toList = true ∧ Legible value.toList := by
  obtain ⟨opened, context, content, hread⟩ := hgives.exists_readNested
  exact legible_of_readNested_ok hread hvalue

theorem Gives.isName_of_mem (hgives : Gives fileSystem settings) :
    ∀ name ∈ settings, isName name.toList = true := by
  intro name hname
  obtain ⟨value, hvalue⟩ := Settings.mem_iff_exists_value?.1 hname
  exact (hgives.legible hvalue).1

/-- A configuration that is built from the settings of a file gives them back through its dump
exactly if none of their values ends in white space. -/
theorem loaded_survives_dump_iff (hgives : Gives fileSystem settings) {builder : Builder}
    (hsettings : builder.settings = settings) {store : Store} {config : Configuration}
    (hbuild : (builder.build store).outcome = .ok config) (other : FileSystem)
    (directory? : Option Path) (source : String) :
    (∃ reread, (parse other config.dump directory? source).outcome = .ok reread ∧
        ∀ name, reread.value? name = settings.value? name) ↔
      ∀ name value, settings.value? name = some value → Text.EndsPlain value.toList := by
  have hdump : config.dump = settings.dump := by
    rw [Configuration.dump, Builder.settings_of_build hbuild, hsettings]
  rw [hdump]
  constructor
  · rintro ⟨reread, hparse, hsame⟩ name value hvalue
    exact (oneLine_of_parse_dump other directory? source hgives.isName_of_mem hparse hsame
      hvalue).finish
  · intro hends
    refine parse_dump other directory? source hgives.isName_of_mem fun name value hvalue => ?_
    exact ⟨(hgives.legible hvalue).2, hends name value hvalue⟩

namespace ReloadSample

def start : Store :=
  .initial (.ofDisk (.ofWorkingDirectory []))

def given (content : String) : Settings :=
  (parse (.memory .empty) content none "text").outcome.toOption.getD ∅

def holding (settings : Settings) : Builder :=
  Builder.empty.addSettings settings

theorem settings_holding (settings : Settings) : (holding settings).settings = settings :=
  Settings.empty_extend settings

/-- A value on three lines, and one that ends in two backslashes. -/
def joined : String :=
  "# sample\nk = a \\\n  b\\\n  c\n[s]\nl = x \\\\\n"

/-- A value that ends in white space, which stood between two backslashes. -/
def openEnd : String :=
  "k = a\\ \\\n\nl = b\n"

theorem gives_given {content : String}
    (hok : (parse (.memory .empty) content none "text").outcome.toOption.isSome = true) :
    Gives (.memory .empty) (given content) :=
  Or.inl ⟨content, none, "text", eq_ok_getD hok ∅⟩

theorem exists_build_holding (settings : Settings)
    (hok : ((holding settings).build start).outcome.toOption.isSome = true) :
    ∃ config, ((holding settings).build start).outcome = .ok config ∧
      config.settings = settings := by
  obtain ⟨config, hconfig⟩ := Option.isSome_iff_exists.1 hok
  have hbuild := toOption_eq_some_iff.1 hconfig
  exact ⟨config, hbuild, (Builder.settings_of_build hbuild).trans (settings_holding settings)⟩

theorem loaded_survives_dump_iff_sample :
    (∀ name value, (given joined).value? name = some value → Text.EndsPlain value.toList) ∧
      ∃ config, ((holding (given openEnd)).build start).outcome = .ok config ∧
        ¬∃ reread, (parse (.memory .empty) config.dump none "dump").outcome = .ok reread ∧
          ∀ name, reread.value? name = (given openEnd).value? name := by
  constructor
  · obtain ⟨config, hbuild, hconfig⟩ :=
      exists_build_holding (given joined) (by decide +kernel)
    have hreread : (parse (.memory .empty) (given joined).dump none "dump").outcome.toOption.map
        Settings.entries = some (given joined).entries := by
      decide +kernel
    obtain ⟨reread, hparse, hentries⟩ := Option.map_eq_some_iff.1 hreread
    rw [toOption_eq_some_iff, ← hconfig] at hparse
    refine (loaded_survives_dump_iff (gives_given (by decide +kernel)) (settings_holding _) hbuild
      (.memory .empty) none "dump").1 ⟨reread, hparse, fun name => ?_⟩
    rw [← Settings.lookup_entries, hentries, Settings.lookup_entries]
  · obtain ⟨config, hbuild, -⟩ :=
      exists_build_holding (given openEnd) (by decide +kernel)
    refine ⟨config, hbuild, fun hsurvives => ?_⟩
    have hends := (loaded_survives_dump_iff (gives_given (by decide +kernel))
      (settings_holding (given openEnd)) hbuild (.memory .empty) none "dump").1 hsurvives
    have hplain : Text.EndsPlain ['a', '\\', ' '] := hends "k" "a\\ " (by decide +kernel)
    exact absurd (hplain ' ' rfl) (by decide)

/-- What follows a value that ends in white space may be lost with it. -/
theorem white_space_lost :
    (parse (.memory .empty) openEnd none "text").outcome = .ok (given openEnd) ∧
      ∃ config, ((holding (given openEnd)).build start).outcome = .ok config ∧
        config.settings = given openEnd ∧
        ¬∃ reread, (parse (.memory .empty) config.dump none "dump").outcome = .ok reread ∧
          ∀ name, reread.value? name = (given openEnd).value? name := by
  obtain ⟨config, hbuild, hconfig⟩ :=
    exists_build_holding (given openEnd) (by decide +kernel)
  refine ⟨eq_ok_getD (by decide +kernel) ∅, config, hbuild, hconfig, ?_⟩
  rintro ⟨reread, hreread, hsame⟩
  have hlost : (parse (.memory .empty) (given openEnd).dump none "dump").outcome.toOption.bind
      (Settings.value? · "l") = none := by
    decide +kernel
  rw [Configuration.dump, hconfig] at hreread
  rw [hreread] at hlost
  have hkept : (given openEnd).value? "l" = some "b" := by decide +kernel
  rw [← hsame, show reread.value? "l" = none from hlost] at hkept
  cases hkept

end ReloadSample

end OptionsFile

end TypedOptions
