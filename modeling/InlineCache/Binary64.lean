/-!
# Binary floats by their bits

A 64-bit float is a sign, eleven bits of exponent and fifty-two bits of fraction. Taken apart, it
is a sign and a magnitude: a natural number times a power of two, infinity, or not a number.

## Main definitions

* `Binary64.equals`: equality of the numbers
* `Binary64.Magnitude`, `Binary64.magnitude`: what the bits without the sign stand for

## Main results

* `equals_comm`: equality is symmetric
-/

namespace InlineCache.Binary64

/-- The bits without the sign. -/
def unsigned (word : UInt64) : UInt64 := word &&& 0x7fffffffffffffff

/-- The sign bit is set. -/
def isNegative (word : UInt64) : Bool := unsigned word != word

/-- The unsigned bits of infinity. All larger ones are not numbers. -/
def infinity : UInt64 := 0x7ff0000000000000

/-- Not a number. -/
def isNaN (word : UInt64) : Bool := decide (infinity < unsigned word)

/-- Equality of floats: a not-a-number equals nothing, and the two zeros are equal. -/
def equals (a b : UInt64) : Bool :=
  !isNaN a && !isNaN b && (a == b || unsigned a == 0 && unsigned b == 0)

/-- What the bits of a float without its sign stand for. -/
inductive Magnitude where
  /-- Not a number. -/
  | nan
  /-- Larger than all numbers. -/
  | infinite
  /-- The number `mantissa * 2 ^ exponent`. The gap to the number below is half as wide as the gap
  to the number above if `narrow` is set. -/
  | finite (mantissa : Nat) (exponent : Int) (narrow : Bool)
  deriving DecidableEq, Inhabited

/-- Takes the bits apart. A float with exponent field zero has no implicit bit and the exponent of
the fields with one. At the foot of every binade but the lowest the float below is half as far away
as the float above. -/
def magnitude (word : UInt64) : Magnitude :=
  let field : Nat := (unsigned word).toNat / Nat.pow 2 52
  let fraction : Nat := (unsigned word).toNat % Nat.pow 2 52
  if field = 0x7ff then
    if fraction = 0 then .infinite else .nan
  else if field = 0 then .finite fraction (-1074) false
  else .finite (Nat.pow 2 52 + fraction) ((field : Int) - 1075) (fraction = 0 ∧ 1 < field)

theorem equals_comm (a b : UInt64) : equals a b = equals b a := by
  unfold equals
  rw [Bool.beq_comm (a := a), Bool.and_comm (unsigned a == 0), Bool.and_comm (!isNaN a)]

/-- A float equals itself unless it is not a number. -/
theorem equals_self (a : UInt64) : equals a a = !isNaN a := by
  simp [equals]

end InlineCache.Binary64
