import InlineCache.Binary64
import InlineCache.Decimal.Shortest

/-!
# Laying out the digits of a float

The text of a float is its shortest decimal, laid out by the decisions of a format: which numbers
are written positionally, which mark stands before an exponent, and what is written for infinity
and for not-a-number.

## Main definitions

* `Layout`: the decisions of a format
* `Layout.write`: the text of a float in a format
-/

namespace InlineCache.Decimal

/-- The decisions of a format. Positional texts always have a digit on either side of the point,
and a text with an exponent has one digit before the point and a point only if digits follow. -/
structure Layout where
  /-- The least exponent of a first digit that is written positionally. -/
  least : Int
  /-- The first exponent of a first digit that is no longer written positionally. -/
  beyond : Int
  /-- What stands before an exponent. -/
  mark : String
  /-- The text of not-a-number, which shows no sign. -/
  nan : String
  /-- The text of infinity. -/
  infinity : String

/-- A number of zeros. -/
def zeros (n : Nat) : List Char := List.replicate n '0'

/-- Digits with the point `shift` places after the last of them. -/
def positional (digits : List Char) (shift : Int) : List Char :=
  let places := (-shift).toNat
  if 0 ≤ shift then digits ++ zeros shift.toNat ++ ['.', '0']
  else if places < digits.length then
    digits.take (digits.length - places) ++ '.' :: digits.drop (digits.length - places)
  else '0' :: '.' :: zeros (places - digits.length) ++ digits

/-- Digits with the point after the first of them. -/
def pointed : List Char → List Char
  | [] => []
  | [d] => [d]
  | d :: rest => d :: '.' :: rest

namespace Layout

/-- The text of a positive decimal. -/
def writeScaled (layout : Layout) (number : Scaled) : String :=
  let digits := Nat.toDigits 10 number.coefficient
  let first := number.exponent + digits.length - 1
  if layout.least ≤ first ∧ first < layout.beyond then
    String.ofList (positional digits number.exponent)
  else String.ofList (pointed digits) ++ layout.mark ++ toString first

/-- The text of a float without its sign. -/
def writeMagnitude (layout : Layout) : Binary64.Magnitude → String
  | .nan => layout.nan
  | .infinite => layout.infinity
  | .finite 0 _ _ => "0.0"
  | .finite mantissa exponent narrow =>
    layout.writeScaled ((Interval.around mantissa exponent narrow).shortest.getD default)

/-- The text of a float, by its bits. -/
def write (layout : Layout) (word : UInt64) : String :=
  if Binary64.isNegative word && !Binary64.isNaN word then
    "-" ++ layout.writeMagnitude (Binary64.magnitude word)
  else layout.writeMagnitude (Binary64.magnitude word)

end Layout

end InlineCache.Decimal
