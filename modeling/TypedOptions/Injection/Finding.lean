import TypedOptions.Configuration
import TypedOptions.Declaration.Basic
import TypedOptions.Log

/-!
# Finding the setting of an option

An option is looked up under its current name and, where its declaration
has a former scope, under the names that it had there.  The setting under
the current name counts, and otherwise the first one under a former name.
All names are asked for in any case.
-/

namespace TypedOptions

/-- What a look-up of an option under all its names finds. -/
structure Finding where
  /-- The setting that counts. -/
  chosen? : Option FoundValue
  /-- The keys that were asked for. -/
  probed : List String
  /-- The names to be recorded as deprecated. -/
  deprecated : List String
  events : List LogEvent

namespace Finding

/-- The former names of an option, below the scope that its declaration had once. -/
def formerNames {τ : Type} (declaration : Declaration τ) (option : OptionDeclaration τ)
    (name : String) : List String :=
  match declaration.deprecatedScope? with
  | some scope =>
      ((option.deprecatedName?.toList ++ [option.name]).map (OptionName.qualify scope)).filter
        (· ≠ name)
  | none => []

/-- Messages on the settings under former names that lose against another one. -/
def ignoredEvents (name : String) (chosen : FoundValue) (losers : List (String × FoundValue)) :
    List LogEvent :=
  (losers.filter fun (_, setting) => setting.value ≠ chosen.value).map fun (former, setting) =>
    .ignoring name chosen.value setting.value former

/-- Settles which of the settings under the current and the former names counts. -/
def choose (name : String) (current? : Option FoundValue) (former : List (String × FoundValue)) :
    Option FoundValue × List LogEvent :=
  match current?, former with
  | some current, _ => (some current, ignoredEvents name current former)
  | none, [] => (none, [])
  | none, (used, setting) :: losers =>
      (some setting, .usingDeprecated used name :: ignoredEvents name setting losers)

def ofNames (config : Configuration) (name : String) (formerNames : List String)
    (isDeprecated : Bool) : Finding :=
  let former := formerNames.filterMap fun former => (config.find? former).map (former, ·)
  let (chosen?, events) := choose name (config.find? name) former
  let warned := isDeprecated && chosen?.isSome
  { chosen?
    probed := config.probes name ++ formerNames.flatMap config.probes
    deprecated := former.map Prod.fst ++ if warned then [name] else []
    events := events ++ if warned then [.deprecatedOption name] else [] }

def record (finding : Finding) (usage : Usage) : Usage :=
  (usage.markAllUsed finding.probed).markAllDeprecated finding.deprecated

end Finding

end TypedOptions
