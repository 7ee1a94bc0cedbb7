import InlineCache.Proofs.Shape.Slots
import Mathlib.Data.List.Basic

/-!
# Slots are numbered as they are added

The counts stored along a shape number the slots of each bank from zero on: a property gets the
number of the properties of its bank that were added before it. So the numbers of a bank are those
below its count, each of them once, whatever kinds share the bank and however often a name occurs.

## Main definitions

* `SlotCounts.inBank`: the count of one bank
* `Property.isPrimitive`: the property lives in the bank of raw words
* `Shape.Counted`: how the properties of a shape are numbered, counted and found

## Main results

* `indices_eq_range`: the slots of a bank are numbered in the order of addition
* `find?_eq_some_iff`: a lookup finds the last property of the name
* `Numbered.counted`: a shape with the right counts is numbered, counted and found so
* `Numbered.properties_eq`: names and kinds determine the properties
-/

namespace InlineCache

namespace SlotCounts

/-- The slots in use in the bank of raw words, or in the boxed one. -/
def inBank (counts : SlotCounts) (primitive : Bool) : Nat :=
  if primitive then counts.primitive else counts.boxed

theorem inBank_take_self (counts : SlotCounts) (kind : Kind) :
    (counts.take kind).inBank kind.isPrimitive = counts.inBank kind.isPrimitive + 1 := by
  cases kind <;> rfl

theorem inBank_take_of_ne {primitive : Bool} {kind : Kind} (h : kind.isPrimitive ≠ primitive)
    (counts : SlotCounts) : (counts.take kind).inBank primitive = counts.inBank primitive := by
  unfold take inBank
  cases kind <;> cases primitive <;> first | rfl | exact absurd rfl h

end SlotCounts

/-- The property lives in the bank of raw words. -/
def Property.isPrimitive (p : Property) : Bool := p.location.kind.isPrimitive

namespace Shape

variable {shape : Shape} {name : String} {location : Location} {p : Property}

/-- The properties that live in one bank, in the order in which they were added. -/
def inBank (shape : Shape) (primitive : Bool) : List Property :=
  shape.properties.filter fun p => p.isPrimitive == primitive

/-- How the properties of a shape are numbered, counted and found: the index of each is the number
of the earlier ones of its bank; so no two share a slot, and the indices of a bank are those below
its count. The size of the shape is the sum of the two counts and the number of properties. A lookup
finds the last property of a name, and nothing if there is none. -/
structure Counted (shape : Shape) : Prop where
  index_eq : ∀ earlier p later, shape.properties = earlier ++ p :: later →
    p.location.index = earlier.countP fun q => q.isPrimitive == p.isPrimitive
  apart : shape.properties.Pairwise fun p q => ¬ p.location.Overlaps q.location
  primitive : ∀ i, i < shape.slots.primitive ↔
    ∃ p ∈ shape.properties, p.isPrimitive = true ∧ p.location.index = i
  boxed : ∀ i, i < shape.slots.boxed ↔
    ∃ p ∈ shape.properties, p.isPrimitive = false ∧ p.location.index = i
  size_eq_sum : shape.size = shape.slots.primitive + shape.slots.boxed
  size_eq_length : shape.size = shape.properties.length
  found : ∀ name location, shape.find? name = some location ↔
    ∃ earlier later, shape.properties = earlier ++ ⟨name, location⟩ :: later ∧
      ∀ q ∈ later, q.name ≠ name
  absent : ∀ name, shape.find? name = none ↔ ∀ q ∈ shape.properties, q.name ≠ name

/-- **The slots of a bank are numbered in the order of addition.** -/
theorem indices_eq_range (numbered : shape.Numbered) (primitive : Bool) :
    (shape.inBank primitive).map (fun p => p.location.index) =
      List.range (shape.slots.inBank primitive) := by
  induction shape with
  | empty serial => cases primitive <;> rfl
  | extend parent serial id name kind slots ih =>
    obtain ⟨older, rfl⟩ := numbered
    rw [inBank, properties_extend, List.filter_append, List.map_append, ← inBank, ih older,
      slots_extend]
    by_cases bank : kind.isPrimitive = primitive
    · subst bank
      rw [SlotCounts.inBank_take_self, List.range_succ]
      simp [Property.isPrimitive, SlotCounts.next, SlotCounts.inBank]
    · rw [SlotCounts.inBank_take_of_ne bank]
      simp [Property.isPrimitive, bank]

theorem countP_eq_inBank (numbered : shape.Numbered) (primitive : Bool) :
    (shape.properties.countP fun p => p.isPrimitive == primitive) =
      shape.slots.inBank primitive := by
  have lengths := congrArg List.length (indices_eq_range numbered primitive)
  rwa [List.length_map, List.length_range, inBank, ← List.countP_eq_length_filter] at lengths

/-- The indices of a bank are those below its count. -/
theorem lt_inBank_iff (numbered : shape.Numbered) (primitive : Bool) (i : Nat) :
    i < shape.slots.inBank primitive ↔
      ∃ p ∈ shape.properties, p.isPrimitive = primitive ∧ p.location.index = i := by
  rw [← List.mem_range, ← indices_eq_range numbered, List.mem_map]
  simp only [inBank, List.mem_filter, beq_iff_eq, and_assoc]

/-- A property was numbered by the properties of its bank that were there before. -/
theorem index_eq_countP (numbered : shape.Numbered) {earlier later : List Property}
    (split : shape.properties = earlier ++ p :: later) :
    p.location.index = earlier.countP fun q => q.isPrimitive == p.isPrimitive := by
  induction shape generalizing later with
  | empty serial => simp at split
  | extend parent serial id name kind slots ih =>
    obtain ⟨older, rfl⟩ := numbered
    rw [properties_extend] at split
    rcases List.eq_nil_or_concat later with rfl | ⟨later, last, rfl⟩
    · obtain ⟨rfl, newest⟩ := List.append_inj' split rfl
      obtain rfl : _ = p := List.singleton_inj.1 newest
      exact (countP_eq_inBank older _).symm
    · rw [List.concat_eq_append, ← List.cons_append, ← List.append_assoc] at split
      exact ih older (List.append_inj' split rfl).1

/-- No two properties share a slot. -/
theorem pairwise_not_overlaps (numbered : shape.Numbered) :
    shape.properties.Pairwise fun p q => ¬ p.location.Overlaps q.location := by
  induction shape with
  | empty serial => exact .nil
  | extend parent serial id name kind slots ih =>
    obtain ⟨older, rfl⟩ := numbered
    rw [properties_extend, List.pairwise_append]
    refine ⟨ih older, List.pairwise_singleton .., ?_⟩
    intro p mem q newest
    rw [List.mem_singleton.1 newest]
    exact SlotCounts.not_overlaps_next (within_of_mem_properties older mem) kind

/-- **A lookup finds the last property of the name.** -/
theorem find?_eq_some_iff :
    shape.find? name = some location ↔
      ∃ earlier later, shape.properties = earlier ++ ⟨name, location⟩ :: later ∧
        ∀ q ∈ later, q.name ≠ name := by
  rw [find?_eq_findRev?, Option.map_eq_some_iff]
  constructor
  · rintro ⟨p, last, rfl⟩
    obtain ⟨named, later, earlier, split, others⟩ := List.find?_eq_some_iff_append.1 last
    obtain rfl : p.name = name := of_decide_eq_true named
    refine ⟨earlier.reverse, later.reverse, ?_, fun q mem => ?_⟩
    · rw [List.reverse_eq_iff] at split
      simpa using split
    · simpa using others q (List.mem_reverse.1 mem)
  · rintro ⟨earlier, later, split, others⟩
    refine ⟨⟨name, location⟩, List.find?_eq_some_iff_append.2 ⟨by simp, ?_⟩, rfl⟩
    refine ⟨later.reverse, earlier.reverse, by simp [split], fun q mem => ?_⟩
    simpa using others q (List.mem_reverse.1 mem)

/-- **A shape with the right counts** is numbered, counted and found as its properties were
added. -/
theorem Numbered.counted (numbered : shape.Numbered) : shape.Counted where
  index_eq _ _ _ := index_eq_countP numbered
  apart := pairwise_not_overlaps numbered
  primitive := lt_inBank_iff numbered true
  boxed := lt_inBank_iff numbered false
  size_eq_sum := Shape.size_eq_total numbered
  size_eq_length := Shape.size_eq_length shape
  found _ _ := find?_eq_some_iff
  absent name := by
    rw [find?_eq_none_iff, names, List.mem_map]
    simp

/-- **Names and kinds determine the properties**, and with them the slots. -/
theorem Numbered.properties_eq {other : Shape} (numbered : shape.Numbered)
    (numbered' : other.Numbered) (same : shape.signature = other.signature) :
    shape.properties = other.properties := by
  -- Induction on the one shape; the other one has as many properties.
  induction shape generalizing other with
  | empty serial =>
    cases other with
    | empty serial' => rfl
    | extend => simp at same
  | extend parent serial id name kind slots ih =>
    cases other with
    | empty serial' => simp at same
    | extend parent' serial' id' name' kind' slots' =>
      rw [signature_extend, signature_extend] at same
      obtain ⟨before, last⟩ := List.append_inj' same rfl
      obtain ⟨rfl, rfl⟩ : name = name' ∧ kind = kind' := by simpa using last
      have older := ih numbered.1 numbered'.1 before
      have next : parent.slots.next kind = parent'.slots.next kind := by
        have count := countP_eq_inBank numbered.1 kind.isPrimitive
        rw [older, countP_eq_inBank numbered'.1] at count
        exact congrArg (Location.mk kind) count.symm
      rw [properties_extend, properties_extend, older, next]

end Shape

end InlineCache
