import TypedOptions.Proofs.Builder.LastWriter
import TypedOptions.Proofs.OptionName

/-!
# Options written as arguments

An option is written as one argument or as two, whatever its value looks like.
Arguments are read exactly if they are written options, one behind the other,
and then as the names and values that were written: no name holds the sign that
tells the two ways of writing apart.  A configuration of arguments is one whose
options were set one by one.
-/

namespace TypedOptions

namespace CommandLine

/-- How an option is written: with its value in one argument, or in two. -/
inductive Form where
  | joined
  | apart
  deriving DecidableEq

structure WrittenOption where
  form : Form
  name : OptionName
  value : String
  deriving DecidableEq

namespace WrittenOption

def arguments (option : WrittenOption) : List String :=
  match option.form with
  | .joined => ["--" ++ option.name.text ++ "=" ++ option.value]
  | .apart => ["--" ++ option.name.text, option.value]

def pair (option : WrittenOption) : String × String :=
  (option.name.text, option.value)

end WrittenOption

def write (options : List WrittenOption) : List String :=
  options.flatMap WrittenOption.arguments

def pairs (options : List WrittenOption) : List (String × String) :=
  options.map WrittenOption.pair

/-- The settings hold the value of the last pair of every key, set by hand, and nothing else. -/
def LastWins (pairs : List (String × String)) (settings : Settings) : Prop :=
  ∀ key, settings.Holds key ((pairs.reverse.lookup key).map fun value => ⟨value, .manual⟩)

/-! ## Arguments -/

theorem optionText?_eq_some_iff {argument : String} {option : List Char} :
    optionText? argument = some option ↔ argument = "--" ++ String.ofList option := by
  unfold optionText?
  constructor
  · intro htext
    split at htext
    · rename_i hlist
      cases htext
      rw [← String.toList_inj, hlist]
      simp
    · cases htext
  · rintro rfl
    simp

theorem separator_not_mem (name : OptionName) : '=' ∉ name.text.toList :=
  not_mem_of_isName name.valid (by decide) (by decide)

theorem readPairs_arguments (option : WrittenOption) (rest : List String) :
    readPairs (option.arguments ++ rest) = (readPairs rest).map (option.pair :: ·) := by
  obtain ⟨form, name, value⟩ := option
  cases form with
  | joined =>
      have htext : optionText? ("--" ++ name.text ++ "=" ++ value) =
          some (name.text.toList ++ '=' :: value.toList) := by
        rw [optionText?_eq_some_iff, String.append_assoc, String.append_assoc]
        simp
      simp [WrittenOption.arguments, WrittenOption.pair, readPairs, htext,
        Text.splitFirst_append _ (separator_not_mem name), name.valid]
  | apart =>
      have htext : optionText? ("--" ++ name.text) = some name.text.toList := by
        rw [optionText?_eq_some_iff, String.ofList_toList]
      simp [WrittenOption.arguments, WrittenOption.pair, readPairs, htext,
        Text.splitFirst_of_not_mem (separator_not_mem name), name.valid]

theorem readPairs_write (options : List WrittenOption) :
    readPairs (write options) = .ok (pairs options) := by
  induction options with
  | nil => exact readPairs_nil
  | cons option rest ih =>
      rw [write, List.flatMap_cons, readPairs_arguments]
      rw [write] at ih
      rw [ih]
      rfl

/-- Arguments that are read are the written form of what they are read as. -/
theorem exists_options_of_readPairs {arguments : List String} {found : List (String × String)}
    (hread : readPairs arguments = .ok found) :
    ∃ options, arguments = write options ∧ found = pairs options := by
  fun_induction readPairs arguments generalizing found with
  | case1 =>
      cases hread
      exact ⟨[], rfl, rfl⟩
  | case2 argument rest htext => cases hread
  | case3 argument rest text htext key value hsplit hname ih =>
      obtain ⟨more, hmore, rfl⟩ := map_eq_ok_iff.1 hread
      obtain ⟨options, rfl, rfl⟩ := ih hmore
      have hvalid : isName (String.ofList key).toList = true := by rwa [String.toList_ofList]
      refine ⟨⟨.joined, ⟨String.ofList key, hvalid⟩, String.ofList value⟩ :: options, ?_, rfl⟩
      rw [optionText?_eq_some_iff.1 htext, (Text.splitFirst_eq_some hsplit).1]
      simp [write, WrittenOption.arguments, ← String.toList_inj]
  | case4 argument rest text htext key value hsplit hname => cases hread
  | case5 argument text htext hsplit => cases hread
  | case6 argument text htext hsplit value rest hname ih =>
      obtain ⟨more, hmore, rfl⟩ := map_eq_ok_iff.1 hread
      obtain ⟨options, rfl, rfl⟩ := ih hmore
      have hvalid : isName (String.ofList text).toList = true := by rwa [String.toList_ofList]
      refine ⟨⟨.apart, ⟨String.ofList text, hvalid⟩, value⟩ :: options, ?_, rfl⟩
      rw [optionText?_eq_some_iff.1 htext]
      rfl
  | case7 argument text htext hsplit value rest hname => cases hread

/-! ## Settings of arguments -/

theorem ofSettings_manual (pairs : List (String × String)) :
    Settings.ofSettings (pairs.map fun (key, value) => (key, ⟨value, .manual⟩)) =
      pairs.foldl (fun settings (name, value) => settings.insert name ⟨value, .manual⟩) ∅ := by
  rw [Settings.ofSettings, List.foldl_map]

theorem lastWins_ofSettings (pairs : List (String × String)) :
    LastWins pairs (.ofSettings (pairs.map fun (key, value) => (key, ⟨value, .manual⟩))) := by
  intro key
  have hlast : (Settings.ofSettings
      (pairs.map fun (key, value) => (key, ⟨value, .manual⟩)))[key]? =
        (pairs.reverse.lookup key).map fun value => ⟨value, .manual⟩ := by
    rw [ofSettings_manual, Builder.getElem?_foldl_manual, Settings.getElem?_empty]
    cases pairs.reverse.lookup key <;> rfl
  rw [← hlast]
  exact (Settings.assembled_ofSettings _).inStep.holds key

theorem read_write (options : List WrittenOption) :
    read (write options) =
      .ok (.ofSettings ((pairs options).map fun (key, value) => (key, ⟨value, .manual⟩))) := by
  rw [read, readPairs_write]
  rfl

theorem exists_options_of_read {arguments : List String} {settings : Settings}
    (hread : read arguments = .ok settings) :
    ∃ options, arguments = write options ∧ LastWins (pairs options) settings := by
  obtain ⟨found, hfound, hsettings⟩ := bind_eq_ok_iff.1 hread
  obtain ⟨options, rfl, rfl⟩ := exists_options_of_readPairs hfound
  cases hsettings
  exact ⟨options, rfl, lastWins_ofSettings _⟩

end CommandLine

namespace Builder

open CommandLine

theorem setAll_eq (builder : Builder) (pairs : List (String × String)) :
    builder.setAll pairs =
      { builder with
        settings := (builder.setAll pairs).settings
        isModified := (builder.setAll pairs).isModified } := by
  induction pairs generalizing builder with
  | nil => rfl
  | cons pair rest ih => exact ih (builder.set pair.1 pair.2)

theorem addSettings_empty (settings : Settings) :
    empty.addSettings settings = { empty with settings, isModified := true } := by
  rw [addSettings]
  congr 1
  exact Settings.empty_extend settings

/-- To set options one by one and to add them all at once leads to the same build, which does not
ask whether there were calls before. -/
theorem build_setAll (pairs : List (String × String)) (store : Store) :
    (empty.setAll pairs).build store =
      (empty.addSettings
        (.ofSettings (pairs.map fun (key, value) => (key, ⟨value, .manual⟩)))).build store := by
  have hsettings : (empty.setAll pairs).settings =
      .ofSettings (pairs.map fun (key, value) => (key, ⟨value, .manual⟩)) := by
    rw [ofSettings_manual]
    exact settings_setAll empty pairs
  rw [addSettings_empty, setAll_eq, hsettings]
  rfl

theorem buildFromArguments_write (store : Store) (options : List WrittenOption) :
    buildFromArguments store (write options) = (empty.setAll (pairs options)).build store := by
  rw [buildFromArguments, read_write, build_setAll]

end Builder

namespace CommandLine

/-- Options are read from arguments exactly if the arguments are written options, in whatever way
each of them is written.  They are read as settings in which the last value of every name wins, all
set by hand, and a configuration of these arguments comes out, or fails to, as that of a builder
whose options are set one by one, with the same record of usage. -/
theorem arguments_read_as_written :
    (∀ options, ∃ settings,
      read (write options) = .ok settings ∧ LastWins (pairs options) settings ∧
        ∀ store,
          Builder.buildFromArguments store (write options) =
              (Builder.empty.setAll (pairs options)).build store ∧
            ∀ config, (Builder.buildFromArguments store (write options)).outcome = .ok config →
              config.settings = settings) ∧
      ∀ arguments settings, read arguments = .ok settings →
        ∃ options, arguments = write options ∧ LastWins (pairs options) settings := by
  refine ⟨fun options => ?_, fun arguments settings hread => exists_options_of_read hread⟩
  refine ⟨_, read_write options, lastWins_ofSettings _, fun store =>
    ⟨Builder.buildFromArguments_write store options, fun config hbuild => ?_⟩⟩
  rw [Builder.buildFromArguments, read_write] at hbuild
  rw [Builder.settings_of_build hbuild, Builder.addSettings_empty]

namespace ArgumentSample

def store : Store :=
  .initial (.ofDisk (.ofWorkingDirectory []))

/-- Values that look like names, separators and options, and an empty one. -/
def options : List WrittenOption :=
  [⟨.joined, ⟨"a", by decide⟩, "x=y"⟩, ⟨.apart, ⟨"b.c", by decide⟩, "=x"⟩,
    ⟨.apart, ⟨"a", by decide⟩, "--b.c"⟩, ⟨.joined, ⟨"d", by decide⟩, ""⟩]

def arguments : List String :=
  ["--a=x=y", "--b.c", "=x", "--a", "--b.c", "--d="]

theorem arguments_read_as_written_sample :
    write options = arguments ∧
      (∃ config, (Builder.buildFromArguments store arguments).outcome = .ok config ∧
        config.settings["a"]? = some ⟨"--b.c", .manual⟩ ∧ config.settings["--b.c"]? = none) ∧
      ∃ others, arguments = write others := by
  have hwrite : write options = arguments := by decide
  obtain ⟨settings, hread, hwins, hbuilds⟩ := arguments_read_as_written.1 options
  rw [hwrite] at hread hbuilds
  have hbuilt : (Builder.buildFromArguments store arguments).outcome.toOption.isSome = true := by
    decide +kernel
  obtain ⟨config, hconfig⟩ := Option.isSome_iff_exists.1 hbuilt
  rw [toOption_eq_some_iff] at hconfig
  have hsettings := (hbuilds store).2 config hconfig
  obtain ⟨others, hothers, -⟩ := arguments_read_as_written.2 arguments settings hread
  refine ⟨hwrite, ⟨config, hconfig, ?_, ?_⟩, others, hothers⟩
  · rw [hsettings, (hwins "a").getElem?_eq]
    decide
  · rw [hsettings, (hwins "--b.c").getElem?_eq]
    decide

end ArgumentSample

end CommandLine

end TypedOptions
