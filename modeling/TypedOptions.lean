import TypedOptions.Builder
import TypedOptions.Converter.Samples
import TypedOptions.Record
import TypedOptions.Serialized
import TypedOptions.Proofs.Builder.CopyFirst
import TypedOptions.Proofs.Builder.FailedBuild
import TypedOptions.Proofs.Builder.LastWriter
import TypedOptions.Proofs.Builder.OutputDisabled
import TypedOptions.Proofs.Converter.ClassNames
import TypedOptions.Proofs.Converter.Integers
import TypedOptions.Proofs.Converter.Templates
import TypedOptions.Proofs.FileSystem.Memory
import TypedOptions.Proofs.Injection.Collections
import TypedOptions.Proofs.Injection.Converters
import TypedOptions.Proofs.Injection.Failure
import TypedOptions.Proofs.Injection.Fields
import TypedOptions.Proofs.Injection.FormerNames
import TypedOptions.Proofs.Injection.Order
import TypedOptions.Proofs.Injection.Overlay
import TypedOptions.Proofs.Injection.Overwriting
import TypedOptions.Proofs.Injection.Patterns
import TypedOptions.Proofs.Injection.Rationals
import TypedOptions.Proofs.Injection.Repetition
import TypedOptions.Proofs.Injection.SafeMode
import TypedOptions.Proofs.Injection.SecureMode
import TypedOptions.Proofs.Injection.ShownValues
import TypedOptions.Proofs.LegalNames
import TypedOptions.Proofs.OptionName.Pattern
import TypedOptions.Proofs.OptionsFile.Continuation
import TypedOptions.Proofs.OptionsFile.Cycles
import TypedOptions.Proofs.OptionsFile.Directives
import TypedOptions.Proofs.OptionsFile.FirstFault
import TypedOptions.Proofs.OptionsFile.Reloading
import TypedOptions.Proofs.OptionsFile.Rewriting
import TypedOptions.Proofs.PathTemplate.Tokens
import TypedOptions.Proofs.Rational.Canonical
import TypedOptions.Proofs.TimeSpan.Conversion
import TypedOptions.Proofs.TimeSpan.Readers
import TypedOptions.Proofs.TimeSpan.Targets
import TypedOptions.Proofs.TimeSpan.Texts
import TypedOptions.Proofs.Value.Counting
import TypedOptions.Proofs.Value.Listing
