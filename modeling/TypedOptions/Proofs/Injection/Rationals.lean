import TypedOptions.Proofs.Injection.Fields
import TypedOptions.Proofs.Rational.Range

/-!
# Rational options

Rationals are converted without an annotation, by reading fractions.  So the
injection of a rational option ends the program only where a piece of its text
is a fraction whose lowest terms are not reached within the range.
-/

namespace TypedOptions

theorem Plain.answers_rational {text : String} (hread : Rational.read text ≠ .error .overflow)
    (limit : Regex.SizeLimit) (context : ConversionContext) :
    Answers (OptionType.element .rational).Fits
      (Plain.convert limit context text (.element .rational)) := by
  unfold convert
  simp only [readElement]
  cases houtcome : Rational.read text with
  | ok value => exact .ok rfl
  | error cause =>
      cases cause with
      | overflow => exact absurd houtcome hread
      | zeroDenominator numerator denominator => exact .fault _
      | malformed shown cause => exact .fault _

section Rationals

variable {τ : Type} {given : Surroundings} {option : OptionDeclaration τ} {name : String}

theorem OptionDeclaration.annotations_of_rational (hfault : option.fault? name = none)
    (helement : option.optionType.elementType = .element .rational) : option.annotations = [] := by
  rcases annotations_of_annotationFault? (annotationFault?_of_fault? hfault) with
    ⟨hnone, -⟩ | ⟨sole, -, hsuits⟩
  · exact hnone
  · have happlicable := hsuits.applicable
    rw [helement] at happlicable
    have hforeign : ∀ kind : AnnotationKind, TypeKey.rational ∉ kind.applicableTypes := by
      intro kind
      cases kind <;> decide
    exact absurd happlicable (hforeign sole.kind)

theorem Surroundings.converter_of_rational (hbuiltIn : given.BuiltIn)
    (hfault : option.fault? name = none)
    (helement : option.optionType.elementType = .element .rational) :
    given.converter option = .plain := by
  unfold converter
  rw [OptionDeclaration.annotations_of_rational hfault helement, helement]
  unfold Configuration.converter Configuration.typeConverter? Registry.converter?
  rw [hbuiltIn.overrides, hbuiltIn.converters]
  rfl

/-- The pieces of the text that is found for the option are fractions and integers that the range
holds in lowest terms. -/
def Configuration.FindsInRange (config : Configuration) (declaration : Declaration τ)
    (option : OptionDeclaration τ) : Prop :=
  ∀ setting, (config.finding declaration option).chosen? = some setting →
    ∀ piece ∈ option.convertedPieces (option.convertedText setting.value),
      Rational.read piece ≠ .error .overflow

theorem Injection.error_of_rational {declaration : Declaration τ} {defaults? : Option τ}
    {expression? : Option Regex} {injection : Injection τ} {error : OptionError}
    (hbuiltIn : given.BuiltIn)
    (hcheck : option.check given.registries.sizeLimit (declaration.nameOf option) = .ok expression?)
    (helement : option.optionType.elementType = .element .rational)
    (hrange : given.config.FindsInRange declaration option)
    (herror : (injection.injectOption given declaration defaults? option).error? = some error) :
    (∃ fault, error = .configuration fault) ∨
      option.isSetter = true ∧
        ∃ message, error = .setter (declaration.nameOf option) (.failed message) := by
  have hconverter := Surroundings.converter_of_rational hbuiltIn
    (OptionDeclaration.fault?_of_check hcheck) helement
  refine error_of_answers hcheck (answers_conversion_of ?_ ?_) herror
  · intro setting hchosen
    apply Surroundings.answers_convert_of_pieces
    intro piece hpiece
    rw [hconverter, helement]
    exact Plain.answers_rational (hrange setting hchosen piece hpiece) _ _
  · intro content
    unfold Surroundings.convertDefault
    rw [hconverter]
    exact .ok (option.type.accepts_toValue content)

end Rationals

/-- A fraction is brought into lowest terms wherever the range can hold them, but for those that
the absolute value of the least integer divides, and otherwise the program ends; both need the
least integer above or below the line.  Nothing else can end it where rationals are read: not a
text but one of two integers around a slash that make such a fraction, and not the injection of an
option but one for which a text with such a piece is found. -/
theorem rationals_within_range (numerator denominator : Int64) (hzero : denominator ≠ 0) :
    (∀ r, Rational.ofFraction numerator denominator = .ok r ↔
      r.IsReduced ∧ r.Denotes numerator.toInt denominator.toInt ∧
        ¬Rational.DividedByLeast numerator denominator) ∧
    (Rational.ofFraction numerator denominator = .error .overflow ↔
      Rational.DividedByLeast numerator denominator ∨
        ¬∃ r : Rational, r.IsReduced ∧ r.Denotes numerator.toInt denominator.toInt) ∧
    (numerator.toInt ≠ IntegerRange.long.least → denominator.toInt ≠ IntegerRange.long.least →
      ∃ r, Rational.ofFraction numerator denominator = .ok r) ∧
    (∀ text, Rational.read text = .error .overflow ↔
      ∃ before after above below,
        Text.splitFirst '/' text.toList = some (before, after) ∧
        Rational.readPart text before = .ok above ∧ Rational.readPart text after = .ok below ∧
        Rational.ofFraction above below = .error .overflow) ∧
    ∀ (τ : Type) (given : Surroundings) (declaration : Declaration τ)
      (option : OptionDeclaration τ) (expression? : Option Regex), given.BuiltIn →
      option.check given.registries.sizeLimit (declaration.nameOf option) = .ok expression? →
      option.optionType.elementType = .element .rational →
      given.config.FindsInRange declaration option →
      ∀ (defaults? : Option τ) (injection : Injection τ) (error : OptionError),
        (injection.injectOption given declaration defaults? option).error? = some error →
        (∃ fault, error = .configuration fault) ∨
          option.isSetter = true ∧
            ∃ message, error = .setter (declaration.nameOf option) (.failed message) := by
  refine ⟨?_, ?_, ?_, ?_, ?_⟩
  · exact fun r => Rational.ofFraction_eq_ok_iff_denotes hzero
  · exact Rational.ofFraction_eq_overflow_iff hzero
  · exact Rational.exists_ofFraction hzero
  · exact fun text => Rational.read_eq_overflow_iff
  · intro τ given declaration option expression? hbuiltIn hcheck helement hrange defaults?
      injection error herror
    exact Injection.error_of_rational hbuiltIn hcheck helement hrange herror

/-! ## Samples -/

namespace RationalSample

def ratio : OptionDeclaration Rational :=
  .ofField "ratio" (.element .rational) id fun ratio _ => ratio

def declaration : Declaration Rational :=
  ⟨"", none, "", [ratio]⟩

def given : Surroundings where
  config :=
    { Configuration.empty "r" false 0 (.memory .empty) with
      settings := .ofSettings [("ratio", ⟨"-9223372036854775808/0", .manual⟩)] }
  registries := .empty fun _ => true

/-- The number one stands for this fraction. -/
theorem one_not_reached :
    Rational.ofFraction Int64.minValue Int64.minValue = .error .overflow ∧
      (⟨1, 1⟩ : Rational).IsReduced ∧
      (⟨1, 1⟩ : Rational).Denotes Int64.minValue.toInt Int64.minValue.toInt :=
  ⟨by decide +kernel, ⟨by decide, by decide⟩, by decide +kernel⟩

theorem findsInRange_given : given.config.FindsInRange declaration ratio := by
  have hfound : (given.config.finding declaration ratio).chosen? =
      some ⟨"-9223372036854775808/0", some .manual⟩ := by
    decide +kernel
  have hpieces : ∀ piece ∈ ratio.convertedPieces (ratio.convertedText "-9223372036854775808/0"),
      Rational.read piece ≠ .error .overflow := by
    decide +kernel
  intro setting hsetting
  cases hfound.symm.trans hsetting
  exact hpieces

theorem rationals_within_range_sample :
    Rational.ofFraction Int64.minValue (-2) = .ok ⟨4611686018427387904, 1⟩ ∧
      (∃ r, Rational.ofFraction 6 (-4) = .ok r) ∧
      Rational.ofFraction 1 Int64.minValue = .error .overflow ∧
      Rational.read "0/-9223372036854775808" = .error .overflow ∧
      ∃ fault, ((Injection.start (Rational.ofInteger 1) .empty).injectOption given declaration none
        ratio).error? = some (.configuration fault) := by
  obtain ⟨hreached, -, -, htexts, hinjections⟩ :=
    rationals_within_range Int64.minValue (-2) (by decide)
  refine ⟨?_, ?_, ?_, ?_, ?_⟩
  · have hreduced : (⟨4611686018427387904, 1⟩ : Rational).IsReduced :=
      ⟨by decide, by decide +kernel⟩
    exact (hreached _).2 ⟨hreduced, by decide +kernel, by decide +kernel⟩
  · obtain ⟨-, -, hexists, -⟩ := rationals_within_range 6 (-4) (by decide)
    exact hexists (by decide +kernel) (by decide +kernel)
  · -- One over the least integer is not held, for its sign belongs above the line.
    obtain ⟨-, hends, -⟩ := rationals_within_range 1 Int64.minValue (by decide)
    refine hends.2 (Or.inr ?_)
    rintro ⟨r, hreduced, hdenotes⟩
    have hpositive := hreduced.positive
    have hrange := contains_toInt64 r.denominator
    have hleast : Int64.minValue.toInt = -9223372036854775808 := rfl
    unfold Rational.Denotes at hdenotes
    simp only [IntegerRange.Contains, IntegerRange.long] at hrange
    rw [hleast, show (1 : Int64).toInt = 1 from rfl] at hdenotes
    omega
  · refine (htexts _).2 ⟨['0'], "-9223372036854775808".toList, 0, Int64.minValue, ?_, ?_, ?_, ?_⟩
    · decide +kernel
    · decide +kernel
    · decide +kernel
    · decide +kernel
  · have hbuiltIn : given.BuiltIn := ⟨rfl, rfl⟩
    have hcheck : ratio.check given.registries.sizeLimit (declaration.nameOf ratio) = .ok none :=
      OptionDeclaration.check_of_pattern_none (by decide +kernel) rfl
    have hfails : ((Injection.start (Rational.ofInteger 1) .empty).injectOption given declaration
        none ratio).error?.isSome = true := by
      decide +kernel
    obtain ⟨error, herror⟩ := Option.isSome_iff_exists.1 hfails
    rcases hinjections _ given declaration ratio none hbuiltIn hcheck rfl findsInRange_given none _
      error herror with ⟨fault, rfl⟩ | ⟨hsetter, -⟩
    · exact ⟨fault, herror⟩
    · cases hsetter

end RationalSample

end TypedOptions
