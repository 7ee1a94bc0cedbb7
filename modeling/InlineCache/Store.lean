import InlineCache.Value
import InlineCache.Shape.Space

/-!
# Attribute stores

An attribute store is a shape and the slots that back it: a bank of raw words for the primitive
attributes and a bank of values for the boxed ones. Seen from outside it is an ordered dictionary:
`AttributeStore.entries` lists every name with its value, in the order of first assignment.

A write goes in place when the slot of the name takes the value. It adds a slot, moving the store
to a successor of its shape, when the name is new. It widens the slot, moving every value to a
layout in which the name is boxed, when a primitive slot gets a value of another kind.

## Main definitions

* `WriteOutcome`: what a write did to the layout
* `AttributeStore`, with `fetch` by location, `get` by name and `entries`
* `AttributeStore.set`: the write

## Main results

* `set_outcome`: the outcome of a write, from the slot that the name had before
-/

namespace InlineCache

/-- What a write did to the layout of a store. -/
inductive WriteOutcome where
  /-- The value went into the slot that was there. -/
  | inPlace
  /-- The name was new and got a slot. -/
  | added
  /-- The primitive slot of the name became a boxed one. -/
  | widened
  deriving DecidableEq, Inhabited

namespace WriteOutcome

/-- The write moved the store to another shape. -/
def changedShape : WriteOutcome → Bool
  | inPlace => false
  | _ => true

/-- The name of the outcome, as the event log gives it. -/
def label : WriteOutcome → String
  | inPlace => "InPlace"
  | added => "Added"
  | widened => "Widened"

theorem changedShape_eq_false_iff {outcome : WriteOutcome} :
    outcome.changedShape = false ↔ outcome = .inPlace := by
  cases outcome <;> simp [changedShape]

end WriteOutcome

/-- A shape and the slots that back it. -/
structure AttributeStore where
  /-- The current layout. -/
  shape : Shape
  /-- The raw words of the primitive attributes. -/
  primitives : Array UInt64
  /-- The values of the boxed attributes. -/
  boxed : Array Value
  deriving DecidableEq, Inhabited

/-- What a write produces. -/
structure Written where
  /-- What happened to the layout. -/
  outcome : WriteOutcome
  /-- The store afterwards. -/
  store : AttributeStore
  /-- The space of shapes, with those that the write published. -/
  space : ShapeSpace

namespace AttributeStore

/-- A store with no attributes, laid out by an empty shape. -/
def ofEmpty (root : Shape) : AttributeStore := ⟨root, #[], #[]⟩

/-- The slot of a name. -/
def location? (store : AttributeStore) (name : String) : Option Location :=
  store.shape.find? name

/-- The store has an attribute of that name. -/
def contains (store : AttributeStore) (name : String) : Bool := store.shape.contains name

/-- The value in a slot, read as a value of the location's kind. A slot out of range has none. -/
def fetch (store : AttributeStore) (location : Location) : Option Value :=
  if location.kind.isPrimitive then
    store.primitives[location.index]?.map (Value.ofBits location.kind)
  else store.boxed[location.index]?

/-- The value in a slot, provided the store is laid out by `shape`. -/
def fetchIfShape (store : AttributeStore) (shape : Shape) (location : Location) : Option Value :=
  if store.shape.same shape then store.fetch location else none

/-- The value of a name. -/
def get (store : AttributeStore) (name : String) : Option Value :=
  (store.location? name).bind store.fetch

/-- The slot of a name with the value in it. -/
def lookup (store : AttributeStore) (name : String) : Option (Location × Value) :=
  (store.location? name).bind fun location => (store.fetch location).map (location, ·)

/-- The number of attributes. -/
def size (store : AttributeStore) : Nat := store.shape.size

/-- There are no attributes. -/
def isEmpty (store : AttributeStore) : Bool := store.size == 0

/-- The attributes with their values, in the order of first assignment. -/
def entries (store : AttributeStore) : List (String × Value) :=
  store.shape.properties.filterMap fun p => (store.fetch p.location).map (p.name, ·)

/-- Overwrites a slot of a bank, or appends one. -/
def putSlot {α : Type} (bank : Array α) (index : Nat) (x : α) : Array α :=
  if index < bank.size then bank.setIfInBounds index x else bank.push x

/-- Writes a value into a slot; a slot that is not there yet becomes the last of its bank. -/
def place (store : AttributeStore) (location : Location) (value : Value) : AttributeStore :=
  if location.kind.isPrimitive then
    { store with primitives := putSlot store.primitives location.index value.bits }
  else
    { store with boxed := putSlot store.boxed location.index value }

/-- Moves the values to another layout. Its slots are numbered in the order of its properties, so
placing in that order appends each slot in its turn. -/
def migrate (store : AttributeStore) (target : Shape) : AttributeStore :=
  let values := target.properties.filterMap fun p => (store.get p.name).map (p.location, ·)
  values.foldl (fun moved entry => moved.place entry.1 entry.2) (ofEmpty target)

/-- Writes a value into the slot that the name has. Without one the store stays as it is. -/
def overwrite (store : AttributeStore) (name : String) (value : Value) : AttributeStore :=
  match store.location? name with
  | some location => store.place location value
  | none => store

/-- Writes an attribute. -/
def set (store : AttributeStore) (space : ShapeSpace) (registry : RegistryId) (name : String)
    (value : Value) : Written :=
  match store.location? name with
  | some location =>
    if location.kind.accepts value.kind then ⟨.inPlace, store.place location value, space⟩
    else
      let (target, space) := space.widen registry store.shape name
      ⟨.widened, (store.migrate target).overwrite name value, space⟩
  | none =>
    let (target, space) := space.withAttribute registry store.shape name value.kind
    let location := (target.property?.map Property.location).getD ⟨value.kind, 0⟩
    ⟨.added, { store with shape := target }.place location value, space⟩

/-! ## Laws -/

@[simp] theorem entries_ofEmpty (serial : Nat) : (ofEmpty (.empty serial)).entries = [] := rfl

@[simp] theorem place_shape (store : AttributeStore) (location : Location) (value : Value) :
    (store.place location value).shape = store.shape := by
  unfold place
  split <;> rfl

/-- **The outcome of a write** depends on the slot that the name had and on the kind of the value
alone: a new name is added, an accepted value goes in place, any other widens the slot. -/
theorem set_outcome (store : AttributeStore) (space : ShapeSpace) (registry : RegistryId)
    (name : String) (value : Value) :
    (store.set space registry name value).outcome =
      match store.location? name with
      | none => .added
      | some location => if location.kind.accepts value.kind then .inPlace else .widened := by
  unfold set
  cases store.location? name with
  | none => rfl
  | some location =>
    by_cases h : location.kind.accepts value.kind <;> simp [h]

end AttributeStore

end InlineCache
