import TypedOptions.OptionName
import TypedOptions.Settings
import TypedOptions.Text.Lines

/-!
# Options on the command line

An option is written as one argument `--key=value` or as two arguments,
`--key` and the value.  The last value of a key wins.
-/

namespace TypedOptions

inductive ArgumentFault where
  | noOption
  | missingValue
  | illegalName
  deriving DecidableEq, Repr

def ArgumentFault.message : ArgumentFault → String
  | .noOption => "expected --key=value or --key value"
  | .missingValue => "missing value"
  | .illegalName => "illegal option name"

structure ArgumentError where
  argument : String
  fault : ArgumentFault
  deriving DecidableEq, Repr

def ArgumentError.message (error : ArgumentError) : String :=
  s!"Invalid command-line argument '{error.argument}': {error.fault.message}"

namespace CommandLine

/-- The text behind the two dashes that every option starts with. -/
def optionText? (argument : String) : Option (List Char) :=
  match argument.toList with
  | '-' :: '-' :: option => some option
  | _ => none

def readPairs : List String → Except ArgumentError (List (String × String))
  | [] => .ok []
  | argument :: rest =>
      match optionText? argument with
      | none => .error ⟨argument, .noOption⟩
      | some option =>
          match Text.splitFirst '=' option with
          | some (key, value) =>
              if isName key then
                (readPairs rest).map ((String.ofList key, String.ofList value) :: ·)
              else .error ⟨argument, .illegalName⟩
          | none =>
              match rest with
              | [] => .error ⟨argument, .missingValue⟩
              | value :: more =>
                  if isName option then (readPairs more).map ((String.ofList option, value) :: ·)
                  else .error ⟨argument, .illegalName⟩

def read (arguments : List String) : Except ArgumentError Settings := do
  let pairs ← readPairs arguments
  return Settings.ofSettings (pairs.map fun (key, value) => (key, ⟨value, .manual⟩))

@[simp] theorem readPairs_nil : readPairs [] = .ok [] := by
  simp [readPairs]

end CommandLine

end TypedOptions
