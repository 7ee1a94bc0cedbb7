import InlineCache.Binary64
import InlineCache.Identity
import InlineCache.Kind

/-!
# Values

A value is what an attribute holds and what an attribute is read from. Heap objects are values by
reference: an `ObjectId` names an instance, a class or a module, and copying a value never copies
the object. Floats are kept as their 64 bits, so a not-a-number keeps its sign and payload.

## Main definitions

* `Value`: the closed set of values
* `Value.bits`, `Value.ofBits`: a primitive value as the raw word of its slot, and back
* `Value.equals`: the equality that programs see

## Main results

* `ofBits_bits`: a primitive value survives its slot bit for bit
-/

namespace InlineCache

/-- A runtime value. -/
inductive Value where
  /-- The unit value. -/
  | nothing
  /-- A boolean. -/
  | bool (b : Bool)
  /-- A 64-bit signed integer. -/
  | int (n : Int64)
  /-- A 64-bit float, by its bits. -/
  | float (bits : UInt64)
  /-- An immutable text. -/
  | str (s : String)
  /-- A reference to an object. -/
  | object (o : ObjectId)
  deriving DecidableEq, Inhabited

namespace Value

/-- The kind of slot that stores the value unboxed, or `boxed`. -/
def kind : Value → Kind
  | bool _ => .bool
  | int _ => .int
  | float _ => .float
  | _ => .boxed

/-- The object a value refers to, if it has attributes. -/
def object? : Value → Option ObjectId
  | object o => some o
  | _ => none

/-- The integer, if the value is one. -/
def int? : Value → Option Int64
  | int n => some n
  | _ => none

/-- The bits of the float, if the value is one. -/
def float? : Value → Option UInt64
  | float bits => some bits
  | _ => none

/-- The boolean, if the value is one. -/
def bool? : Value → Option Bool
  | bool b => some b
  | _ => none

/-- The raw word of a primitive value. A boxed value has none and gives zero. -/
def bits : Value → UInt64
  | bool b => b.toUInt64
  | int n => n.toUInt64
  | float bits => bits
  | _ => 0

/-- A raw word read as a value of a kind. Any word but zero is a true boolean. -/
def ofBits (kind : Kind) (word : UInt64) : Value :=
  match kind with
  | .int => int word.toInt64
  | .float => float word
  | .bool => bool (word != 0)
  | .boxed => nothing

@[simp] theorem object?_object (o : ObjectId) : (object o).object? = some o := rfl

theorem int?_eq_none_iff {v : Value} : v.int? = none ↔ v.kind ≠ .int := by
  cases v <;> simp [int?, kind]

theorem float?_eq_none_iff {v : Value} : v.float? = none ↔ v.kind ≠ .float := by
  cases v <;> simp [float?, kind]

theorem bool?_eq_none_iff {v : Value} : v.bool? = none ↔ v.kind ≠ .bool := by
  cases v <;> simp [bool?, kind]

/-- **A primitive value survives its slot**, bit for bit. -/
theorem ofBits_bits {v : Value} (h : v.kind.isPrimitive = true) : ofBits v.kind v.bits = v := by
  cases v with
  | bool b => cases b <;> rfl
  | int n => simp [kind, bits, ofBits]
  | float w => rfl
  | nothing => simp [kind] at h
  | str s => simp [kind] at h
  | object o => simp [kind] at h

end Value

/-- The equality that programs see: floats compare as numbers, objects by identity, and values of
different kinds are never equal. -/
def Value.equals : Value → Value → Bool
  | float a, float b => Binary64.equals a b
  | a, b => a == b

end InlineCache
