import TypedOptions.Proofs.Builder.Reachable

/-!
# The last writer of a key

A builder holds for every key what the last call that wrote the key gave it:
the value in the one table and its source in the other.  Only calls that
succeed write keys, and what a builder holds goes into the configuration that
is built.
-/

namespace TypedOptions

namespace Builder

/-- What a call gives a key: nothing if the call fails or leaves the key alone, and otherwise the
setting of the key from then on, which is none if the key is cleared. -/
def written? (builder : Builder) (call : Call) (key : String) : Option (Option Setting) :=
  match call with
  | .set name value => if name = key then some (some ⟨value, .manual⟩) else none
  | .setAll pairs => (pairs.reverse.lookup key).map fun value => some ⟨value, .manual⟩
  | .clear name => if name = key then some none else none
  | .copyFrom config => if builder.isModified then none else config.settings[key]?.map some
  | .copySettingFrom config name => if name = key then config.settings[name]?.map some else none
  | .build store => (builder.build store).outcome.toOption.map fun _ => none
  | call => (builder.added? call).bind fun settings => settings[key]?.map some

def Untouched (builder : Builder) (calls : List Call) (key : String) : Prop :=
  ∀ before call after, calls = before ++ call :: after →
    (builder.performAll before).written? call key = none

/-- The last call that writes the key succeeds and leaves it with `setting?`. -/
def LastWrites (builder : Builder) (calls : List Call) (key : String)
    (setting? : Option Setting) : Prop :=
  ∃ before call after, calls = before ++ call :: after ∧
    ((builder.performAll before).run call).outcome = .ok () ∧
    (builder.performAll before).written? call key = some setting? ∧
    (builder.performAll (before ++ [call])).Untouched after key

/-! ## One call -/

theorem getElem?_foldl_manual (pairs : List (String × String)) (settings : Settings)
    (key : String) :
    (pairs.foldl (fun settings (name, value) => settings.insert name ⟨value, .manual⟩)
        settings)[key]? =
      ((pairs.reverse.lookup key).map fun value => some ⟨value, .manual⟩).getD
        settings[key]? := by
  have hfold := Settings.get_foldl (fun settings name => settings[name]?)
    (fun settings pair => settings.insert pair.1 ⟨pair.2, .manual⟩) (⟨·, .manual⟩)
    (fun settings name value other => settings.getElem?_insert name other ⟨value, .manual⟩)
    pairs settings key
  refine hfold.trans ?_
  cases pairs.reverse.lookup key <;> rfl

theorem getElem?_added {builder : Builder} {call : Call} (hcall : call.Possible) (key : String) :
    ((builder.added? call).elim builder.settings builder.settings.extend)[key]? =
      ((builder.added? call).bind fun settings => settings[key]?.map some).getD
        builder.settings[key]? := by
  cases hadded : builder.added? call with
  | none => rfl
  | some settings =>
      have hstep : settings.InStep := (assembled_added hcall.assembled hadded).inStep
      rw [Option.elim_some, Option.bind_some, Settings.getElem?_extend _ hstep]
      cases settings[key]? <;> rfl

theorem getElem?_perform {builder : Builder} (hfresh : builder.Fresh) {call : Call}
    (hcall : call.Possible) (key : String) :
    (builder.perform call).settings[key]? =
      (builder.written? call key).getD builder.settings[key]? := by
  rw [settings_perform]
  cases call with
  | set name value =>
      simp only [settingsAfter, written?, Settings.getElem?_insert]
      split <;> rfl
  | setAll pairs => exact getElem?_foldl_manual pairs builder.settings key
  | clear name =>
      simp only [settingsAfter, written?, Settings.getElem?_erase]
      split <;> rfl
  | copyFrom config =>
      simp only [settingsAfter, written?]
      cases hmodified : builder.isModified with
      | true => rfl
      | false =>
          -- Nothing is lost, because nothing was there.
          rw [hfresh hmodified]
          cases hsetting : config.settings[key]? <;> simp [hsetting]
  | copySettingFrom config name =>
      simp only [settingsAfter, written?]
      cases hsetting : config.settings[name]? with
      | none => simp
      | some setting =>
          simp only [Option.elim_some, Option.map_some, Settings.getElem?_insert]
          split <;> rfl
  | build store =>
      simp only [settingsAfter, written?]
      cases (builder.build store).outcome with
      | error error => rfl
      | ok config => simp [Except.toOption]
  | addSettings | loadFile | loadText | loadDefault => exact getElem?_added hcall key
  | setPrefix | addConverter | withRegistry | withFileSystem => rfl

/-- A call that fails writes nothing. -/
theorem written?_of_error {builder : Builder} {call : Call} {error : OptionError}
    (herror : (builder.run call).outcome = .error error) (key : String) :
    builder.written? call key = none := by
  cases call with
  | copyFrom config =>
      simp only [run, copyFrom] at herror
      cases hmodified : builder.isModified with
      | true => simp only [written?, hmodified, if_true]
      | false =>
          rw [hmodified] at herror
          cases herror
  | copySettingFrom config name =>
      simp only [run, copySettingFrom] at herror
      cases hsetting : config.settings[name]? with
      | none => simp only [written?, hsetting, Option.map_none, ite_self]
      | some setting =>
          rw [hsetting] at herror
          cases herror
  | build store =>
      have hbuild : (builder.build store).outcome = .error error := map_eq_error_iff.1 herror
      simp only [written?, hbuild]
      rfl
  | loadFile | loadText | loadDefault =>
      simp only [written?, added?_of_error rfl herror, Option.bind_none]
  | _ => cases herror

theorem outcome_of_written {builder : Builder} {call : Call} {key : String}
    {setting? : Option Setting} (hwritten : builder.written? call key = some setting?) :
    (builder.run call).outcome = .ok () := by
  cases houtcome : (builder.run call).outcome with
  | ok result => rfl
  | error error =>
      rw [written?_of_error houtcome] at hwritten
      cases hwritten

/-! ## All calls -/

theorem untouched_nil (builder : Builder) (key : String) : builder.Untouched [] key := by
  intro before call after hsplit
  simp at hsplit

theorem untouched_cons {builder : Builder} {call : Call} {rest : List Call} {key : String}
    (hcall : builder.written? call key = none) (hrest : (builder.perform call).Untouched rest key) :
    builder.Untouched (call :: rest) key := by
  intro before other after hsplit
  cases before with
  | nil =>
      cases hsplit
      exact hcall
  | cons first more =>
      cases hsplit
      exact hrest more other after rfl

theorem lastWrites_cons {builder : Builder} {call : Call} {rest : List Call} {key : String}
    {setting? : Option Setting} (hrest : (builder.perform call).LastWrites rest key setting?) :
    builder.LastWrites (call :: rest) key setting? := by
  obtain ⟨before, last, after, rfl, hok, hwritten, huntouched⟩ := hrest
  exact ⟨call :: before, last, after, rfl, hok, hwritten, huntouched⟩

theorem getElem?_performAll {builder : Builder} (hfresh : builder.Fresh) {calls : List Call}
    (hcalls : ∀ call ∈ calls, call.Possible) (key : String) :
    (builder.Untouched calls key ∧
        (builder.performAll calls).settings[key]? = builder.settings[key]?) ∨
      ∃ setting?, builder.LastWrites calls key setting? ∧
        (builder.performAll calls).settings[key]? = setting? := by
  induction calls generalizing builder with
  | nil => exact Or.inl ⟨untouched_nil builder key, rfl⟩
  | cons call rest ih =>
      obtain ⟨hpossible, hlater⟩ := List.forall_mem_cons.1 hcalls
      have hcall := getElem?_perform hfresh hpossible key
      rcases ih (fresh_perform hfresh call) hlater with
        ⟨huntouched, hkept⟩ | ⟨setting?, hlast, hsetting⟩
      · rw [performAll_cons, hkept, hcall]
        cases hwritten : builder.written? call key with
        | none => exact Or.inl ⟨untouched_cons hwritten huntouched, rfl⟩
        | some setting? =>
            exact Or.inr ⟨setting?,
              ⟨[], call, rest, rfl, outcome_of_written hwritten, hwritten, huntouched⟩, rfl⟩
      · exact Or.inr ⟨setting?, lastWrites_cons hlast, hsetting⟩

/-- Every key has the value and the source of its last writer, and neither if no call wrote it. -/
def HoldsLastWrites (calls : List Call) (settings : Settings) : Prop :=
  ∀ key, (empty.Untouched calls key ∧ settings.Holds key none) ∨
    ∃ setting?, empty.LastWrites calls key setting? ∧ settings.Holds key setting?

theorem holdsLastWrites_performAll {calls : List Call}
    (hcalls : ∀ call ∈ calls, call.Possible) :
    HoldsLastWrites calls (empty.performAll calls).settings := by
  intro key
  have hholds := (inStep_of_possible hcalls).holds key
  rcases getElem?_performAll fresh_empty hcalls key with
    ⟨huntouched, hkept⟩ | ⟨setting?, hlast, hsetting⟩
  · have hnone : empty.settings[key]? = none := Settings.getElem?_empty key
    rw [hkept, hnone] at hholds
    exact Or.inl ⟨huntouched, hholds⟩
  · rw [hsetting] at hholds
    exact Or.inr ⟨setting?, hlast, hholds⟩

end Builder

/-- What is found stands under one of the keys, and its source beside it. -/
theorem Settings.InStep.holds_of_findFirst? {settings : Settings} (hsettings : settings.InStep)
    {keys : List String} {found : FoundValue} (hfound : settings.findFirst? keys = some found) :
    ∃ source, found.source? = some source ∧
      ∃ key ∈ keys, settings.Holds key (some ⟨found.value, source⟩) := by
  obtain ⟨key, hkey, hfound⟩ := List.exists_of_findSome?_eq_some hfound
  obtain ⟨value, hvalue, rfl⟩ := Option.map_eq_some_iff.1 hfound
  obtain ⟨source, hsource⟩ := hsettings.exists_source? hvalue
  exact ⟨source, hsource, key, hkey, hvalue, hsource⟩

namespace Builder

/-- Whatever calls a program makes of a builder, the builder and what is built from it hold for each
key the value and the source that the last call to write the key gave it.  Calls that fail leave the
builder as it was.  The tables of values and of sources have the same keys, in the builder and in
all configurations that a program can have, and whatever is found in these has a source. -/
theorem last_writer_wins {calls : List Call} (hcalls : ∀ call ∈ calls, call.Possible) :
    let builder := empty.performAll calls
    (HoldsLastWrites calls builder.settings ∧ builder.settings.InStep) ∧
    (∀ call error, (builder.run call).outcome = .error error →
      (builder.run call).builder = builder) ∧
    (∀ store config, (builder.build store).outcome = .ok config →
      HoldsLastWrites calls config.settings ∧ config.Reachable) ∧
    ∀ config : Configuration, config.Reachable → config.settings.InStep ∧
      ∀ name found, config.find? name = some found →
        ∃ source, found.source? = some source ∧
          ∃ key ∈ config.keys name, config.settings.Holds key (some ⟨found.value, source⟩) := by
  intro builder
  have hholds : HoldsLastWrites calls builder.settings := holdsLastWrites_performAll hcalls
  refine ⟨⟨hholds, inStep_of_possible hcalls⟩, fun call error => perform_of_error,
    fun store config hbuild => ⟨?_, ?_⟩, fun config hconfig => ⟨hconfig.inStep, ?_⟩⟩
  · rwa [settings_of_build hbuild]
  · exact .built (fun call hcall => (hcalls call hcall).assembled)
      (fun call hcall => (hcalls call hcall).reachable) hbuild
  · exact fun name found hfound => hconfig.inStep.holds_of_findFirst? hfound

/-! ## A sample -/

namespace CallSample

def store : Store :=
  .initial (.ofDisk (.ofWorkingDirectory []))

def baseCalls : List Call :=
  [.addSettings (.ofSettings [("a", ⟨"0", .path ⟨"/base"⟩⟩), ("b", ⟨"1", .manual⟩)])]

def base : Configuration :=
  ((empty.performAll baseCalls).build store).outcome.toOption.getD
    (.empty Registries.globalId false 0 (.memory .empty))

theorem reachable_base : base.Reachable := by
  have hbuilt : ((empty.performAll baseCalls).build store).outcome.toOption.isSome = true := by
    decide +kernel
  refine .built ?_ ?_ (eq_ok_getD hbuilt _)
  · simp only [baseCalls, List.forall_mem_singleton]
    rintro settings ⟨⟩
    exact Settings.assembled_ofSettings _
  · simp only [baseCalls, List.forall_mem_singleton]
    rintro config ⟨⟩

/-- A late copy, a copy of a setting that is not there, a look for a file where no directory is
known, and a text without a value. -/
def failing : List Call :=
  [.copyFrom base, .copySettingFrom base "c", .loadDefault store.environment "" "app" "options",
    .loadText store.environment "d" none "inline"]

/-- One key is taken back to the value that it has in the base, and one is left cleared. -/
def calls : List Call :=
  [.copyFrom base, .clear "b", .loadText store.environment "a = 2\nc = 3\n" none "inline"] ++
    failing ++ [.set "c" "4", .copySettingFrom base "a"]

theorem possible_of_mem_calls : ∀ call ∈ calls, call.Possible := by
  have hbase : ∀ call : Call, call.settings? = none → call.configuration? = some base →
      call.Possible := by
    intro call hsettings hconfig
    refine ⟨?_, ?_⟩
    · rw [hsettings]
      rintro settings ⟨⟩
    · rw [hconfig]
      rintro config ⟨⟩
      exact reachable_base
  have hother : ∀ call : Call, call.settings? = none → call.configuration? = none →
      call.Possible := by
    intro call hsettings hconfig
    refine ⟨?_, ?_⟩
    · rw [hsettings]
      rintro settings ⟨⟩
    · rw [hconfig]
      rintro config ⟨⟩
  simp only [calls, failing, List.cons_append, List.nil_append, List.forall_mem_cons]
  exact ⟨hbase _ rfl rfl, hother _ rfl rfl, hother _ rfl rfl, hbase _ rfl rfl, hbase _ rfl rfl,
    hother _ rfl rfl, hother _ rfl rfl, hother _ rfl rfl, hbase _ rfl rfl, List.forall_mem_nil _⟩

theorem last_writer_wins_sample :
    (∀ call ∈ calls, call.Possible) ∧
      ∃ config, ((empty.performAll calls).build store).outcome = .ok config ∧
        (∀ call ∈ failing,
          ((empty.performAll calls).run call).builder = empty.performAll calls) ∧
        HoldsLastWrites calls config.settings ∧ config.find? "b" = none ∧
        ∃ key ∈ config.keys "a", config.settings.Holds key (some ⟨"0", .path ⟨"/base"⟩⟩) := by
  have hbuilt : ((empty.performAll calls).build store).outcome.toOption.map
      (fun config => (config.find? "a", config.find? "b")) =
        some (some ⟨"0", some (.path ⟨"/base"⟩)⟩, none) := by
    decide +kernel
  obtain ⟨config, hconfig, hboth⟩ := Option.map_eq_some_iff.1 hbuilt
  obtain ⟨hfound, hcleared⟩ := Prod.mk.inj hboth
  rw [toOption_eq_some_iff] at hconfig
  have hfails : ∀ call ∈ failing,
      (error? ((empty.performAll calls).run call).outcome).isSome = true := by
    decide +kernel
  obtain ⟨-, hfailed, hbuilds, hreachable⟩ := last_writer_wins possible_of_mem_calls
  obtain ⟨hholds, hconfigReachable⟩ := hbuilds store config hconfig
  obtain ⟨source, hsource, hheld⟩ := (hreachable config hconfigReachable).2 "a" _ hfound
  cases hsource
  refine ⟨possible_of_mem_calls, config, hconfig, fun call hcall => ?_, hholds, hcleared, hheld⟩
  obtain ⟨error, herror⟩ := Option.isSome_iff_exists.1 (hfails call hcall)
  exact hfailed call error (error?_eq_some_iff.1 herror)

end CallSample

end Builder

end TypedOptions
