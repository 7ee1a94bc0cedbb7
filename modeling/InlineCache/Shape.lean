import InlineCache.Kind

/-!
# Shapes

A shape is an object layout: it says which attributes an object stores, in the order in which they
were added, and in which slot each of them lives. Primitive attributes share one bank of slots and
boxed attributes another; a bank hands out its slots in order. A shape is its parent and one
property more, down to an empty shape.

Shapes are published once and then shared, so two shapes are the same if they are one publication:
every published shape carries a serial number, and `Shape.same` compares nothing else. Publication
is the work of `InlineCache.Shape.Space`.

Positions in a bank, counts of slots and of properties, and the numbers that a registry gives are
natural numbers. They stand for 32-bit words as long as a shape has fewer than 2^32 properties and a
registry has published fewer than 2^32 shapes; beyond that a word would wrap around, and what is
proved of the numbers is not meant for it. Serial numbers stand for the identity of a publication in
memory, and have no such bound.

## Main definitions

* `Location`, `Property`: a typed slot, and the attribute that lives in it
* `SlotCounts`: how many slots of each bank are in use
* `Shape`: a layout, with `Shape.find?`, `Shape.properties` and `Shape.signature`
* `Shape.Numbered`: the stored slot counts are those of the properties

## Main results

* `properties_extend`: a successor has one property more, at the end
* `size_eq_length`, `size_eq_total`: the size counts the properties, and the slots of both banks
* `find?_eq_findRev?`: a lookup finds the newest property of a name
* `signature_extend`: the signature of a successor
-/

namespace InlineCache

/-- A typed slot: its kind, and its index in the primitive or the boxed bank. -/
structure Location where
  /-- The kind the slot is typed for. -/
  kind : Kind
  /-- Position in the bank. -/
  index : Nat
  deriving DecidableEq, Inhabited

/-- An attribute of a shape. -/
structure Property where
  /-- The attribute's name. -/
  name : String
  /-- Where its value lives. -/
  location : Location
  deriving DecidableEq, Inhabited

/-- The number of slots in use in each bank. -/
structure SlotCounts where
  /-- Unboxed slots. -/
  primitive : Nat
  /-- Boxed slots. -/
  boxed : Nat
  deriving DecidableEq, Inhabited

namespace SlotCounts

/-- No slots. -/
def zero : SlotCounts := ⟨0, 0⟩

/-- All slots. -/
def total (counts : SlotCounts) : Nat := counts.primitive + counts.boxed

/-- The first free slot for a value of a kind. -/
def next (counts : SlotCounts) (kind : Kind) : Location :=
  ⟨kind, if kind.isPrimitive then counts.primitive else counts.boxed⟩

/-- The counts once the first free slot for a kind is taken. -/
def take (counts : SlotCounts) (kind : Kind) : SlotCounts :=
  if kind.isPrimitive then ⟨counts.primitive + 1, counts.boxed⟩
  else ⟨counts.primitive, counts.boxed + 1⟩

@[simp] theorem next_kind (counts : SlotCounts) (kind : Kind) :
    (counts.next kind).kind = kind := rfl

@[simp] theorem total_take (counts : SlotCounts) (kind : Kind) :
    (counts.take kind).total = counts.total + 1 := by
  unfold take total
  split <;> simp only <;> omega

end SlotCounts

/-- A layout: an empty shape, or a parent and one property more. -/
inductive Shape where
  /-- A shape with no properties. -/
  | empty (serial : Nat)
  /-- The successor of `parent` that adds `name` in a slot of `kind`. The `serial` number is that
  of its publication, the `id` the number its registry gave it, and `slots` counts the slots in
  use, this one included. -/
  | extend (parent : Shape) (serial id : Nat) (name : String) (kind : Kind) (slots : SlotCounts)
  deriving DecidableEq, Inhabited

namespace Shape

/-- The number of the publication. -/
def serial : Shape → Nat
  | empty serial => serial
  | extend _ serial _ _ _ _ => serial

/-- The number that the registry gave the shape; an empty shape has number zero. -/
def id : Shape → Nat
  | empty _ => 0
  | extend _ _ id _ _ _ => id

/-- The shape this one was made from. -/
def parent? : Shape → Option Shape
  | empty _ => none
  | extend parent _ _ _ _ _ => some parent

/-- The slots in use. -/
def slots : Shape → SlotCounts
  | empty _ => .zero
  | extend _ _ _ _ _ slots => slots

/-- The number of properties, counted on its own: a successor has one more than its parent. -/
def size : Shape → Nat
  | empty _ => 0
  | extend parent _ _ _ _ _ => parent.size + 1

/-- The property that this shape adds to its parent. -/
def property? : Shape → Option Property
  | empty _ => none
  | extend parent _ _ name kind _ => some ⟨name, parent.slots.next kind⟩

/-- A shape is empty if it bears the number that registries keep for empty shapes. -/
def isEmpty (shape : Shape) : Bool := shape.id == 0

/-- Identity of shapes. -/
def same (a b : Shape) : Bool := a.serial == b.serial

/-- Where the newest property of that name lives. -/
def find? : Shape → String → Option Location
  | empty _, _ => none
  | extend parent _ _ name kind _, wanted =>
    if name = wanted then some (parent.slots.next kind) else parent.find? wanted

/-- Some property has the name. -/
def contains (shape : Shape) (name : String) : Bool := (shape.find? name).isSome

/-- The properties from the oldest on, followed by `later`. -/
def propertiesBefore : Shape → List Property → List Property
  | empty _, later => later
  | extend parent _ _ name kind _, later =>
    parent.propertiesBefore (⟨name, parent.slots.next kind⟩ :: later)

/-- The properties in the order in which they were added. -/
def properties (shape : Shape) : List Property := shape.propertiesBefore []

/-- The names in the order in which they were added. -/
def names (shape : Shape) : List String := shape.properties.map Property.name

/-- Names and kinds, in the order in which they were added: what a layout is made from. -/
def signature (shape : Shape) : List (String × Kind) :=
  shape.properties.map fun p => (p.name, p.location.kind)

/-- The successor of `parent` with one attribute more. -/
def successor (parent : Shape) (serial id : Nat) (name : String) (kind : Kind) : Shape :=
  extend parent serial id name kind (parent.slots.take kind)

/-- The counts stored along the shape are those of its properties. -/
def Numbered : Shape → Prop
  | empty _ => True
  | extend parent _ _ _ kind slots => parent.Numbered ∧ slots = parent.slots.take kind

/-! ## Laws -/

theorem propertiesBefore_eq (shape : Shape) (later : List Property) :
    shape.propertiesBefore later = shape.properties ++ later := by
  induction shape generalizing later with
  | empty serial => rfl
  | extend parent serial id name kind slots ih =>
    simp only [properties, propertiesBefore]
    rw [ih, ih [_]]
    simp

@[simp] theorem properties_empty (serial : Nat) : (empty serial).properties = [] := rfl

/-- A successor has one property more, at the end. -/
@[simp] theorem properties_extend (parent : Shape) (serial id : Nat) (name : String) (kind : Kind)
    (slots : SlotCounts) :
    (extend parent serial id name kind slots).properties =
      parent.properties ++ [⟨name, parent.slots.next kind⟩] := by
  rw [properties, propertiesBefore, propertiesBefore_eq]

@[simp] theorem signature_empty (serial : Nat) : (empty serial).signature = [] := rfl

@[simp] theorem signature_extend (parent : Shape) (serial id : Nat) (name : String) (kind : Kind)
    (slots : SlotCounts) :
    (extend parent serial id name kind slots).signature = parent.signature ++ [(name, kind)] := by
  simp [signature]

/-- A lookup finds the newest property of the name. -/
theorem find?_eq_findRev? (shape : Shape) (name : String) :
    shape.find? name = (shape.properties.reverse.find? (·.name = name)).map Property.location := by
  induction shape with
  | empty serial => rfl
  | extend parent serial id n kind slots ih =>
    by_cases h : n = name <;> simp [find?, h, ih]

@[simp] theorem serial_successor (parent : Shape) (serial id : Nat) (name : String) (kind : Kind) :
    (parent.successor serial id name kind).serial = serial := rfl

@[simp] theorem signature_successor (parent : Shape) (serial id : Nat) (name : String)
    (kind : Kind) :
    (parent.successor serial id name kind).signature = parent.signature ++ [(name, kind)] :=
  signature_extend ..

theorem numbered_successor {parent : Shape} (h : parent.Numbered) (serial id : Nat) (name : String)
    (kind : Kind) : (parent.successor serial id name kind).Numbered :=
  ⟨h, rfl⟩

theorem size_eq_length (shape : Shape) : shape.size = shape.properties.length := by
  induction shape with
  | empty serial => rfl
  | extend parent serial id name kind slots ih =>
    rw [size, properties_extend, List.length_append, List.length_singleton, ih]

/-- Every property of a numbered shape has a slot of its own. -/
theorem size_eq_total {shape : Shape} (h : shape.Numbered) : shape.size = shape.slots.total := by
  induction shape with
  | empty serial => rfl
  | extend parent serial id name kind slots ih =>
    obtain ⟨hp, rfl⟩ := h
    calc
      parent.size + 1 = parent.slots.total + 1 := by rw [ih hp]
      _ = (parent.slots.take kind).total := (SlotCounts.total_take ..).symm

end Shape

end InlineCache
