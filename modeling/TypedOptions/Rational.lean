import TypedOptions.Number.Double
import TypedOptions.Number.Integer
import TypedOptions.Text.Blank
import TypedOptions.Text.Lines

/-!
# Rational numbers

A fraction of 64-bit integers.  Construction divides by the greatest common
divisor and moves the sign to the numerator.  All steps are 64-bit steps: one
that leaves the range is an overflow, also where the reduced fraction would
fit.
-/

namespace TypedOptions

structure Rational where
  numerator : Int64
  denominator : Int64
  deriving DecidableEq, Repr

inductive RationalError where
  | zeroDenominator (numerator denominator : Int64)
  | malformed (text : String) (cause : IntegerError)
  | overflow
  deriving DecidableEq, Repr

def RationalError.message : RationalError → String
  | .zeroDenominator numerator denominator =>
      s!"Rational number {numerator.toInt}/{denominator.toInt} has a zero denominator"
  | .malformed text cause => s!"Invalid rational number '{text}': {cause.message}"
  | .overflow => "arithmetic overflow"

/-- A whole number as a 64-bit integer, unless it leaves the range. -/
def checkedLong (value : Int) : Except RationalError Int64 :=
  if IntegerRange.long.Contains value then .ok (Int64.ofInt value) else .error .overflow

namespace Rational

/-- The greatest common divisor by repeated division.  The quotient of the least integer by minus
one and the absolute value of the least integer leave the range. -/
def commonDivisor (a b : Int) : Except RationalError Int64 :=
  if b = 0 then checkedLong a.natAbs
  else if a = IntegerRange.long.least ∧ b = -1 then .error .overflow
  else commonDivisor b (a.tmod b)
termination_by b.natAbs
decreasing_by
  simp only [Int.natAbs_tmod]
  exact Nat.mod_lt _ (by omega)

/-- The fraction in lowest terms with a positive denominator. -/
def ofFraction (numerator denominator : Int64) : Except RationalError Rational := do
  if denominator = 0 then
    throw (.zeroDenominator numerator denominator)
  let divisor ← commonDivisor numerator.toInt denominator.toInt
  let sign : Int := if denominator.toInt < 0 then -1 else 1
  let numerator ← checkedLong (sign * numerator.toInt.tdiv divisor.toInt)
  let denominator ← checkedLong (sign * denominator.toInt.tdiv divisor.toInt)
  return { numerator, denominator }

def ofInteger (value : Int64) : Rational :=
  ⟨value, 1⟩

/-- The quotient of the two rounded integers. -/
def toDouble (r : Rational) : Double :=
  .ofFloat (r.numerator.toFloat / r.denominator.toFloat)

def toText (r : Rational) : String :=
  if r.denominator = 1 then toString r.numerator.toInt
  else s!"{r.numerator.toInt}/{r.denominator.toInt}"

def readPart (text : String) (part : List Char) : Except RationalError Int64 :=
  match readInteger .long (Text.trim part) with
  | .ok value => .ok (Int64.ofInt value)
  | .error cause => .error (.malformed text cause)

/-- An integer, or two integers around the first slash. -/
def read (text : String) : Except RationalError Rational :=
  match Text.splitFirst '/' text.toList with
  | some (before, after) => do
      let numerator ← readPart text before
      let denominator ← readPart text after
      ofFraction numerator denominator
  | none => (readPart text text.toList).map ofInteger

end Rational

end TypedOptions
