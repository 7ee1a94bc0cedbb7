/-!
# Slot kinds

A storage slot is typed for one kind of value. Integers, floats and booleans fit in a raw 64-bit
word; everything else lives in a boxed slot. The boxed kind is the top of the order: a boxed slot
takes a value of any kind, a primitive slot only values of its own.

## Main definitions

* `Kind`: the four slot kinds
* `Kind.accepts`: a slot can take a value without changing its representation
* `Kind.join`: the kind of a slot that has to hold values of two kinds

## Main results

* `accepts_iff_join`: a slot takes a value exactly if the value does not move its kind
-/

namespace InlineCache

/-- The representation a storage slot is typed for. -/
inductive Kind where
  /-- An unboxed 64-bit signed integer. -/
  | int
  /-- An unboxed 64-bit float. -/
  | float
  /-- An unboxed boolean. -/
  | bool
  /-- Any value at all. -/
  | boxed
  deriving DecidableEq, Inhabited

namespace Kind

/-- The unboxed kinds. -/
def isPrimitive : Kind → Bool
  | boxed => false
  | _ => true

/-- A slot of this kind can hold a value of kind `incoming` as it stands. -/
def accepts (slot incoming : Kind) : Bool :=
  slot == boxed || slot == incoming

/-- The least kind that accepts both: the common kind, or `boxed` if they differ. -/
def join (a b : Kind) : Kind :=
  if a = b then a else boxed

/-- The name users see. -/
def name : Kind → String
  | int => "int"
  | float => "float"
  | bool => "bool"
  | boxed => "object"

/-- The name of the constructor, for inspection. -/
def label : Kind → String
  | int => "Int"
  | float => "Float"
  | bool => "Bool"
  | boxed => "Boxed"

@[simp] theorem isPrimitive_boxed : isPrimitive boxed = false := rfl

theorem isPrimitive_iff {k : Kind} : k.isPrimitive = true ↔ k ≠ boxed := by
  cases k <;> simp [isPrimitive]

@[simp] theorem accepts_self (k : Kind) : k.accepts k = true := by
  simp [accepts]

@[simp] theorem boxed_accepts (k : Kind) : boxed.accepts k = true := by
  simp [accepts]

theorem accepts_iff {slot incoming : Kind} :
    slot.accepts incoming = true ↔ slot = boxed ∨ slot = incoming := by
  simp [accepts]

/-- A slot that refuses a value is a primitive one of another kind. -/
theorem not_accepts_iff {slot incoming : Kind} :
    ¬ slot.accepts incoming = true ↔ slot.isPrimitive = true ∧ slot ≠ incoming := by
  rw [accepts_iff, not_or, isPrimitive_iff]

@[simp] theorem join_self (k : Kind) : k.join k = k := by
  simp [join]

/-- A value leaves the kind of a slot alone, or makes a primitive slot a boxed one. -/
theorem join_eq_or (slot incoming : Kind) :
    slot.join incoming = slot ∨ slot.isPrimitive = true ∧ slot.join incoming = boxed := by
  cases slot <;> cases incoming <;> decide

/-- A slot takes a value exactly if the value does not move the slot's kind. -/
theorem accepts_iff_join {slot incoming : Kind} :
    slot.accepts incoming = true ↔ slot.join incoming = slot := by
  cases slot <;> cases incoming <;> decide

end Kind

end InlineCache
