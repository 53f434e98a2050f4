import TypedOptions.Number.Double
import TypedOptions.Number.Integer

/-!
# Reading decimal numbers

A decimal number has an optional sign, digits with at most one point among
or around them, and an optional exponent; or it is a name of infinity or of
not-a-number in any case.  It is rounded to the nearest double, a tie going
to the even one.
-/

namespace TypedOptions

inductive DoubleError where
  | empty
  | invalid
  deriving DecidableEq, Repr

def DoubleError.message : DoubleError → String
  | .empty => "cannot parse float from empty string"
  | .invalid => "invalid float literal"

namespace Double

/-- `numerator / denominator` rounded to a whole number, a tie going to the even one. -/
def divideToEven (numerator denominator : Nat) : Nat :=
  let quotient := numerator / denominator
  let twice := 2 * (numerator % denominator)
  if twice < denominator then quotient
  else if twice > denominator then quotient + 1
  else quotient + quotient % 2

/-- The magnitude of the double nearest to `numerator / denominator`, both positive. -/
def magnitudeOfRatio (numerator denominator : Nat) : Nat :=
  let scaled (exponent : Int) : Nat × Nat :=
    (numerator * Nat.pow 2 (-exponent).toNat, denominator * Nat.pow 2 exponent.toNat)
  let estimate : Int := max ((numerator.log2 : Int) - denominator.log2 - 53) (-1074)
  let (top, bottom) := scaled estimate
  let exponent := if top / bottom ≥ Nat.pow 2 53 then estimate + 1 else estimate
  let (top, bottom) := scaled exponent
  min ((exponent + 1074).toNat * fieldWidth + divideToEven top bottom) infiniteMagnitude

/-- The magnitude of the double nearest to `digits * 10 ^ place`.  Numbers far beyond the greatest
or below the least double are settled by their number of digits. -/
def magnitudeOfDecimal (digits : Nat) (place : Int) : Nat :=
  if digits = 0 then 0
  else
    let size : Int := (Nat.toDigits 10 digits).length + place
    if size > 310 then infiniteMagnitude
    else if size < -325 then 0
    else magnitudeOfRatio (digits * Nat.pow 10 place.toNat) (Nat.pow 10 (-place).toNat)

/-- The value of a row of digits, `none` if there is another character. -/
def digitsValue? (text : List Char) : Option Nat :=
  text.foldlM (fun value c => (digitValue? c).map (value * 10 + ·)) 0

def readExponent? : List Char → Option Int
  | [] => none
  | ['+'] => none
  | ['-'] => none
  | '+' :: digits => (digitsValue? digits).map (↑·)
  | '-' :: digits => (digitsValue? digits).map (-↑·)
  | digits => (digitsValue? digits).map (↑·)

def isExponentLetter (c : Char) : Bool :=
  c == 'e' || c == 'E'

def readDecimal? (text : List Char) : Option Nat := do
  let mantissa := text.takeWhile (!isExponentLetter ·)
  let exponent ←
    match text.dropWhile (!isExponentLetter ·) with
    | [] => some 0
    | _ :: digits => readExponent? digits
  let whole := mantissa.takeWhile (· != '.')
  let fraction := (mantissa.dropWhile (· != '.')).drop 1
  if whole.isEmpty && fraction.isEmpty then none
  let digits ← digitsValue? (whole ++ fraction)
  return magnitudeOfDecimal digits (exponent - fraction.length)

def readMagnitude? (text : List Char) : Option Nat :=
  match text.map Char.toLower with
  | ['i', 'n', 'f'] => some infiniteMagnitude
  | ['i', 'n', 'f', 'i', 'n', 'i', 't', 'y'] => some infiniteMagnitude
  | ['n', 'a', 'n'] => some (infiniteMagnitude + fieldWidth / 2)
  | _ => readDecimal? text

def read (text : String) : Except DoubleError Double :=
  match text.toList with
  | [] => .error .empty
  | '-' :: rest => (readMagnitude? rest).elim (.error .invalid) (.ok <| ofSignMagnitude true ·)
  | '+' :: rest => (readMagnitude? rest).elim (.error .invalid) (.ok <| ofSignMagnitude false ·)
  | rest => (readMagnitude? rest).elim (.error .invalid) (.ok <| ofSignMagnitude false ·)

end Double

end TypedOptions
