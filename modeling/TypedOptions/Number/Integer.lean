/-!
# Decimal integers

An integer is an optional sign and at least one digit.  The digits are read
from left to right and the reading stops at the first fault: a character
that is no digit, or a digit with which the number leaves its range.
-/

namespace TypedOptions

inductive IntegerError where
  | empty
  | invalidDigit
  | tooLarge
  | tooSmall
  deriving DecidableEq, Repr

def IntegerError.message : IntegerError → String
  | .empty => "cannot parse integer from empty string"
  | .invalidDigit => "invalid digit found in string"
  | .tooLarge => "number too large to fit in target type"
  | .tooSmall => "number too small to fit in target type"

structure IntegerRange where
  least : Int
  greatest : Int

namespace IntegerRange

def Contains (range : IntegerRange) (value : Int) : Prop :=
  range.least ≤ value ∧ value ≤ range.greatest

instance (range : IntegerRange) (value : Int) : Decidable (range.Contains value) :=
  inferInstanceAs (Decidable (_ ∧ _))

def int : IntegerRange :=
  ⟨-2147483648, 2147483647⟩

def long : IntegerRange :=
  ⟨-9223372036854775808, 9223372036854775807⟩

/-- The member of the range that is nearest to a value. -/
def clamp (range : IntegerRange) (value : Int) : Int :=
  max range.least (min value range.greatest)

end IntegerRange

def digitValue? (c : Char) : Option Nat :=
  if c.isDigit then some (c.toNat - '0'.toNat) else none

/-- The number with one more digit at its end; every digit counts with the sign. -/
def appendDigit (negative : Bool) (value : Int) (digit : Nat) : Int :=
  if negative then value * 10 - digit else value * 10 + digit

/-- Continues a number whose digits so far make `value`. -/
def readDigits (range : IntegerRange) (negative : Bool) (value : Int) :
    List Char → Except IntegerError Int
  | [] => .ok value
  | c :: rest =>
      match digitValue? c with
      | none => .error .invalidDigit
      | some digit =>
          if range.Contains (appendDigit negative value digit) then
            readDigits range negative (appendDigit negative value digit) rest
          else .error (if negative then .tooSmall else .tooLarge)

/-- Reads an integer of a range; a lone sign is an invalid digit. -/
def readInteger (range : IntegerRange) : List Char → Except IntegerError Int
  | [] => .error .empty
  | ['+'] => .error .invalidDigit
  | ['-'] => .error .invalidDigit
  | '+' :: digits => readDigits range false 0 digits
  | '-' :: digits => readDigits range true 0 digits
  | digits => readDigits range false 0 digits

def readInt (text : String) : Except IntegerError Int32 :=
  (readInteger .int text.toList).map Int32.ofInt

def readLong (text : String) : Except IntegerError Int64 :=
  (readInteger .long text.toList).map Int64.ofInt

theorem readDigits_contains {range : IntegerRange} {negative : Bool} {value result : Int}
    {text : List Char} (hvalue : range.Contains value)
    (h : readDigits range negative value text = .ok result) : range.Contains result := by
  induction text generalizing value with
  | nil =>
      simp only [readDigits, Except.ok.injEq] at h
      exact h ▸ hvalue
  | cons c rest ih =>
      simp only [readDigits] at h
      split at h
      · cases h
      · split at h
        · exact ih ‹_› h
        · cases h

/-- What is read lies in the range, as long as zero does. -/
theorem readInteger_contains {range : IntegerRange} {result : Int} {text : List Char}
    (hzero : range.Contains 0) (h : readInteger range text = .ok result) :
    range.Contains result := by
  unfold readInteger at h
  split at h
  · cases h
  · cases h
  · cases h
  · exact readDigits_contains hzero h
  · exact readDigits_contains hzero h
  · exact readDigits_contains hzero h

end TypedOptions
