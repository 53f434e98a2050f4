/-!
# Double-precision numbers

A number is kept as the bits of its binary form, so that a negative zero and
every not-a-number stay what they are.  Comparison is the numeric one: the
two zeros are equal and a not-a-number equals nothing.
-/

namespace TypedOptions

structure Double where
  bits : UInt64
  deriving DecidableEq, Repr

namespace Double

def fieldWidth : Nat := Nat.pow 2 52

def isNegative (x : Double) : Bool :=
  x.bits.toNat ≥ Nat.pow 2 63

/-- The bits below the sign. -/
def magnitude (x : Double) : Nat :=
  x.bits.toNat % Nat.pow 2 63

def infiniteMagnitude : Nat := 2047 * fieldWidth

def isNaN (x : Double) : Bool :=
  x.magnitude > infiniteMagnitude

def isInfinite (x : Double) : Bool :=
  x.magnitude == infiniteMagnitude

def isZero (x : Double) : Bool :=
  x.magnitude == 0

def equals (x y : Double) : Bool :=
  !x.isNaN && !y.isNaN && (x.bits == y.bits || (x.isZero && y.isZero))

def ofSignMagnitude (negative : Bool) (magnitude : Nat) : Double :=
  ⟨UInt64.ofNat (if negative then Nat.pow 2 63 + magnitude else magnitude)⟩

def ofFloat (x : Float) : Double :=
  ⟨x.toBits⟩

/-- A finite number is `significand * 2 ^ exponent` up to its sign. -/
def significand (x : Double) : Nat :=
  if x.magnitude < fieldWidth then x.magnitude
  else x.magnitude % fieldWidth + fieldWidth

def exponent (x : Double) : Int :=
  if x.magnitude < fieldWidth then -1074
  else x.magnitude / fieldWidth - 1075

theorem equals_self_iff (x : Double) : x.equals x = true ↔ x.isNaN = false := by
  cases h : x.isNaN <;> simp [equals, h]

theorem equals_comm (x y : Double) : x.equals y = y.equals x := by
  simp only [equals]
  rw [Bool.beq_comm (a := x.bits), Bool.and_comm (!x.isNaN), Bool.and_comm x.isZero]

end Double

end TypedOptions
