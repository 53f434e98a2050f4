import TypedOptions.Key
import TypedOptions.LogLevel

/-!
# Log messages

The work on options is accompanied by messages.  `Logged` computations
collect them in order and keep those written before a failure.
-/

namespace TypedOptions

inductive LogEvent where
  | parsed (count : Nat) (source : String)
  | including (path : String) (line : Nat) (source : String)
  | loaded (count : Nat) (path : String)
  | noFile (path : String)
  | registering (key : ConverterKey)
  | secureMode
  | built (count : Nat)
  | injecting (count : Nat) (parent : String)
  | usingDeprecated (deprecated option : String)
  | ignoring (option chosen ignored deprecated : String)
  | deprecatedOption (option : String)
  | used (option raw : String)
  | keeping (option shown : String)
  | setting (option shown : String)
  deriving DecidableEq, Repr

namespace LogEvent

def level : LogEvent → LogLevel
  | .parsed .. => .trace
  | .including .. => .debug
  | .loaded .. => .debug
  | .noFile .. => .debug
  | .registering .. => .debug
  | .secureMode => .info
  | .built .. => .debug
  | .injecting .. => .debug
  | .usingDeprecated .. => .warn
  | .ignoring .. => .warn
  | .deprecatedOption .. => .warn
  | .used .. => .info
  | .keeping .. => .trace
  | .setting .. => .trace

def message : LogEvent → String
  | .parsed count source => s!"Parsed {count} options from '{source}'"
  | .including path line source => s!"Including '{path}' from line {line} of '{source}'"
  | .loaded count path => s!"Loaded {count} options from {path}"
  | .noFile path => s!"No option file at {path}"
  | .registering key => s!"Registering converter for {key.name}"
  | .secureMode => "Secure mode enabled"
  | .built count => s!"Built configuration with {count} options"
  | .injecting count parent => s!"Injecting {count} options with prefix '{parent}'"
  | .usingDeprecated deprecated option =>
      s!"Using deprecated name {deprecated} for option {option}, please use the new name instead"
  | .ignoring option chosen ignored deprecated =>
      s!"Option {option} is set to '{chosen}', ignoring the value '{ignored}' of its deprecated " ++
        s!"name {deprecated}"
  | .deprecatedOption option => s!"Option {option} is deprecated"
  | .used option raw => s!"Option {option} = {raw}"
  | .keeping option shown => s!"Option {option} keeps its value {shown}"
  | .setting option shown => s!"Setting option {option} to {shown}"

def line (event : LogEvent) : String :=
  event.level.name ++ " " ++ event.message

end LogEvent

/-- A result or failure together with the messages of the way to it. -/
structure Logged (ε α : Type) where
  events : List LogEvent
  outcome : Except ε α

namespace Logged

variable {ε α β : Type}

def ofExcept (outcome : Except ε α) : Logged ε α :=
  ⟨[], outcome⟩

def log (event : LogEvent) : Logged ε Unit :=
  ⟨[event], .ok ()⟩

def fail (error : ε) : Logged ε α :=
  ⟨[], .error error⟩

def bind (first : Logged ε α) (next : α → Logged ε β) : Logged ε β :=
  match first.outcome with
  | .ok value => ⟨first.events ++ (next value).events, (next value).outcome⟩
  | .error error => ⟨first.events, .error error⟩

def mapError {δ : Type} (change : ε → δ) (logged : Logged ε α) : Logged δ α :=
  ⟨logged.events, logged.outcome.mapError change⟩

instance : Monad (Logged ε) where
  pure value := ⟨[], .ok value⟩
  bind := bind

@[simp] theorem outcome_pure (value : α) : (pure value : Logged ε α).outcome = .ok value :=
  rfl

@[simp] theorem events_pure (value : α) : (pure value : Logged ε α).events = [] :=
  rfl

@[simp] theorem outcome_fail (error : ε) : (fail error : Logged ε α).outcome = .error error :=
  rfl

@[simp] theorem outcome_log (event : LogEvent) : (log event : Logged ε Unit).outcome = .ok () :=
  rfl

@[simp] theorem outcome_ofExcept (outcome : Except ε α) : (ofExcept outcome).outcome = outcome :=
  rfl

/-- Messages have no influence on what is computed. -/
@[simp] theorem outcome_bind (first : Logged ε α) (next : α → Logged ε β) :
    (first >>= next).outcome = first.outcome >>= fun value => (next value).outcome := by
  change (bind first next).outcome = _
  unfold bind
  cases first.outcome <;> rfl

end Logged

end TypedOptions
