import TypedOptions.Number.Double

/-!
# The shortest decimal text of a number

A number is written with the fewest decimal digits that read back as that
number, and of these with the nearest.  The text is positional: it never has
an exponent, and a whole number has no point.
-/

namespace TypedOptions

/-- The positive number `numerator / denominator`, and the numbers `below` and `above` it, over the
same denominator, between which every number is rounded to it. -/
structure RoundingInterval where
  numerator : Nat
  below : Nat
  above : Nat
  denominator : Nat
  /-- Whether the two ends are rounded to the number as well. -/
  closed : Bool

namespace RoundingInterval

/-- The interval of a finite number other than zero.  The gap below a power of two is half the gap
above it. -/
def ofDouble (x : Double) : RoundingInterval :=
  let significand := x.significand
  let gapBelow := if x.magnitude % Double.fieldWidth == 0 && x.magnitude > Double.fieldWidth
    then 1 else 2
  let up := Nat.pow 2 (x.exponent - 2).toNat
  let down := Nat.pow 2 (2 - x.exponent).toNat
  { numerator := 4 * significand * up
    below := (4 * significand - gapBelow) * up
    above := (4 * significand + 2) * up
    denominator := down
    closed := significand % 2 == 0 }

/-- Whether `count / scale` is rounded to the number. -/
def accepts (interval : RoundingInterval) (count scale : Nat) : Bool :=
  let place := count * interval.denominator
  if interval.closed then
    interval.below * scale ≤ place && place ≤ interval.above * scale
  else
    interval.below * scale < place && place < interval.above * scale

/-- The multiple of `unit / scale` that stands for the number: of the two neighbours on that grid
the one that is accepted, of two the nearer, of two equally near the upper one. -/
def onGrid? (interval : RoundingInterval) (unit scale : Nat) : Option Nat :=
  let lower := interval.numerator * scale / (interval.denominator * unit)
  let acceptsLower := interval.accepts (lower * unit) scale
  let acceptsUpper := interval.accepts ((lower + 1) * unit) scale
  if acceptsLower && acceptsUpper then
    let twice := 2 * interval.numerator * scale
    if twice < (2 * lower + 1) * unit * interval.denominator then some lower else some (lower + 1)
  else if acceptsLower then some lower
  else if acceptsUpper then some (lower + 1)
  else none

/-- How many digits the number has before the point; zero or less if it begins after the point. -/
def wholeDigits (interval : RoundingInterval) : Int :=
  let whole := interval.numerator / interval.denominator
  if whole > 0 then (Nat.toDigits 10 whole).length
  else
    let inverse := interval.denominator / interval.numerator
    let size : Int := (Nat.toDigits 10 inverse).length
    if interval.numerator * Nat.pow 10 (size.toNat - 1) ≥ interval.denominator then 2 - size
    else 1 - size

/-- The shortest `count` and the exponent `place` for which `count * 10 ^ place` stands for the
number, searched from `digits` digits on. -/
def shortestFrom (interval : RoundingInterval) (digits : Nat) : Nat → Nat × Int
  | 0 => (0, 0)
  | tries + 1 =>
      let place := interval.wholeDigits - digits
      match interval.onGrid? (Nat.pow 10 place.toNat) (Nat.pow 10 (-place).toNat) with
      | some count => (count, place)
      | none => interval.shortestFrom (digits + 1) tries

/-- Seventeen digits always suffice. -/
def shortest (interval : RoundingInterval) : Nat × Int :=
  interval.shortestFrom 1 17

end RoundingInterval

/-- The positional text of `count * 10 ^ place`. -/
def positional (count : Nat) (place : Int) : String :=
  let digits := (toString count).toList
  let fraction := (-place).toNat
  if place ≥ 0 then String.ofList (digits ++ List.replicate place.toNat '0')
  else if digits.length ≤ fraction then
    String.ofList ('0' :: '.' :: List.replicate (fraction - digits.length) '0' ++ digits)
  else
    let whole := digits.length - fraction
    String.ofList (digits.take whole ++ '.' :: digits.drop whole)

/-- Drops the zeros at the end of a count, which the rounding to a higher power of ten leaves. -/
def dropZeros (count : Nat) (place : Int) : Nat → Nat × Int
  | 0 => (count, place)
  | tries + 1 =>
      if count % 10 = 0 then dropZeros (count / 10) (place + 1) tries else (count, place)

def Double.toText (x : Double) : String :=
  if x.isNaN then "NaN"
  else
    let text :=
      if x.isInfinite then "inf"
      else if x.isZero then "0"
      else
        let (count, place) := (RoundingInterval.ofDouble x).shortest
        let (count, place) := dropZeros count place 17
        positional count place
    if x.isNegative then "-" ++ text else text

end TypedOptions
