import TypedOptions.Proofs.Builder.Building
import TypedOptions.Proofs.Builder.Calls
import TypedOptions.Proofs.OptionsFile.Inclusion

/-!
# Builders and configurations of a program

A program hands settings over that it put together or read, and it copies from
configurations that came out of earlier builds.  Nothing else comes into a
builder, and every call changes the table of values and the table of sources
alike.  So both tables have the same keys in all builders and configurations
that a program can come to have.
-/

namespace TypedOptions

namespace Builder.Call

/-- The settings that are handed over with a call. -/
def settings? : Call → Option Settings
  | .addSettings settings => some settings
  | _ => none

/-- The configuration from which a call copies. -/
def configuration? : Call → Option Configuration
  | .copyFrom config => some config
  | .copySettingFrom config _ => some config
  | _ => none

end Builder.Call

/-- A configuration that a program can come to have. -/
inductive Configuration.Reachable : Configuration → Prop where
  | opened (store : Store) : Reachable store.defaultConfiguration.2
  | built {calls : List Builder.Call} {store : Store} {config : Configuration}
      (hsettings : ∀ call ∈ calls, ∀ settings ∈ call.settings?, settings.Assembled)
      (hconfigs : ∀ call ∈ calls, ∀ other ∈ call.configuration?, Reachable other)
      (hbuild : ((Builder.empty.performAll calls).build store).outcome = .ok config) :
      Reachable config
  | ofArguments {store : Store} {arguments : List String} {config : Configuration}
      (hbuild : (Builder.buildFromArguments store arguments).outcome = .ok config) :
      Reachable config
  | viewed {config : Configuration} (hconfig : Reachable config) (text : String) :
      Reachable (config.withPrefix text)

/-- A call that a program can make. -/
structure Builder.Call.Possible (call : Builder.Call) : Prop where
  assembled : ∀ settings ∈ call.settings?, settings.Assembled
  reachable : ∀ config ∈ call.configuration?, config.Reachable

namespace CommandLine

theorem assembled_read {arguments : List String} {settings : Settings}
    (hread : read arguments = .ok settings) : settings.Assembled := by
  obtain ⟨pairs, -, hsettings⟩ := bind_eq_ok_iff.1 hread
  cases hsettings
  exact Settings.assembled_ofSettings _

end CommandLine

namespace Builder

variable {builder : Builder} {call : Call}

theorem assembled_added {settings : Settings}
    (hcall : ∀ settings ∈ call.settings?, settings.Assembled)
    (hadded : builder.added? call = some settings) : settings.Assembled := by
  cases call with
  | addSettings => exact hcall settings hadded
  | loadFile environment path =>
      exact OptionsFile.assembled_parseFile (toOption_eq_some_iff.1 hadded)
  | loadText environment content directory? source =>
      exact OptionsFile.assembled_parse (toOption_eq_some_iff.1 hadded)
  | loadDefault environment qualifier application file =>
      obtain ⟨directory, -, hfound⟩ := Option.bind_eq_some_iff.1 hadded
      obtain ⟨type, -, hparse⟩ := Option.bind_eq_some_iff.1 hfound
      exact OptionsFile.assembled_parseFile (toOption_eq_some_iff.1 hparse)
  | _ => cases hadded

theorem inStep_added (hcall : ∀ settings ∈ call.settings?, settings.Assembled)
    (hbuilder : builder.settings.InStep) :
    ((builder.added? call).elim builder.settings builder.settings.extend).InStep := by
  cases hadded : builder.added? call with
  | none => exact hbuilder
  | some settings => exact hbuilder.extend (assembled_added hcall hadded).inStep

/-- Every call changes both tables alike. -/
theorem inStep_perform (hsettings : ∀ settings ∈ call.settings?, settings.Assembled)
    (hconfigs : ∀ config ∈ call.configuration?, config.settings.InStep)
    (hbuilder : builder.settings.InStep) : (builder.perform call).settings.InStep := by
  rw [settings_perform]
  cases call with
  | set name value => exact hbuilder.insert name ⟨value, .manual⟩
  | setAll pairs =>
      exact List.foldlRecOn pairs _ hbuilder fun _ hsettings pair _ =>
        hsettings.insert pair.1 ⟨pair.2, .manual⟩
  | clear name => exact hbuilder.erase name
  | copyFrom config =>
      simp only [settingsAfter]
      split
      · exact hbuilder
      · exact hconfigs config rfl
  | copySettingFrom config name =>
      simp only [settingsAfter]
      cases config.settings[name]? with
      | none => exact hbuilder
      | some setting => exact hbuilder.insert name setting
  | build store =>
      simp only [settingsAfter]
      cases (builder.build store).outcome with
      | error error => exact hbuilder
      | ok config => exact Settings.inStep_empty
  | addSettings | loadFile | loadText | loadDefault => exact inStep_added hsettings hbuilder
  | setPrefix | addConverter | withRegistry | withFileSystem => exact hbuilder

theorem inStep_performAll {calls : List Call}
    (hsettings : ∀ call ∈ calls, ∀ settings ∈ call.settings?, settings.Assembled)
    (hconfigs : ∀ call ∈ calls, ∀ config ∈ call.configuration?, config.settings.InStep)
    (hbuilder : builder.settings.InStep) : (builder.performAll calls).settings.InStep := by
  induction calls generalizing builder with
  | nil => exact hbuilder
  | cons call rest ih =>
      obtain ⟨hfirst, hlater⟩ := List.forall_mem_cons.1 hsettings
      obtain ⟨hconfig, hothers⟩ := List.forall_mem_cons.1 hconfigs
      exact ih hlater hothers (inStep_perform hfirst hconfig hbuilder)

end Builder

/-- Every value of a configuration has a source, and every source belongs to a value. -/
theorem Configuration.Reachable.inStep {config : Configuration} (hconfig : config.Reachable) :
    config.settings.InStep := by
  induction hconfig with
  | opened store => exact Settings.inStep_empty
  | built hsettings _ hbuild ih =>
      rw [Builder.settings_of_build hbuild]
      exact Builder.inStep_performAll hsettings ih Settings.inStep_empty
  | @ofArguments store arguments config hbuild =>
      unfold Builder.buildFromArguments at hbuild
      cases hread : CommandLine.read arguments with
      | error cause =>
          rw [hread] at hbuild
          cases hbuild
      | ok settings =>
          simp only [hread] at hbuild
          rw [Builder.settings_of_build hbuild]
          exact Settings.inStep_empty.extend (CommandLine.assembled_read hread).inStep
  | viewed _ text ih => exact ih

/-- The tables that a program's calls leave in a builder have the same keys. -/
theorem Builder.inStep_of_possible {calls : List Builder.Call}
    (hcalls : ∀ call ∈ calls, call.Possible) :
    (Builder.empty.performAll calls).settings.InStep :=
  inStep_performAll (fun call hcall => (hcalls call hcall).assembled)
    (fun call hcall config hconfig => ((hcalls call hcall).reachable config hconfig).inStep)
    Settings.inStep_empty

end TypedOptions
