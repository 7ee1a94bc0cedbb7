import InlineCache.Shape

/-!
# The slots of a shape

In a shape with the right counts every property has a slot of its own, and the slots of a bank are
used up to the count of the bank. A lookup by name finds one of the properties; if no name occurs
twice, it finds every one of them.

## Main definitions

* `Location.Within counts`: the slot is among the first `counts` ones of its bank
* `Location.Overlaps`: two locations are the same slot of the same bank

## Main results

* `contains_iff_mem_names`: a shape contains the names that it lists
* `find?_of_mem_properties`: without repeated names every property is found
* `within_of_find?`, `not_overlaps_of_find?`: slots are in range, and apart
-/

namespace InlineCache

/-- The slot is one of those that `counts` counts. -/
def Location.Within (location : Location) (counts : SlotCounts) : Prop :=
  location.index < (counts.next location.kind).index

/-- Two locations are the same slot of the same bank, whatever they take its contents for. -/
def Location.Overlaps (a b : Location) : Prop :=
  a.kind.isPrimitive = b.kind.isPrimitive ∧ a.index = b.index

theorem Location.Overlaps.symm {a b : Location} (h : a.Overlaps b) : b.Overlaps a :=
  ⟨h.1.symm, h.2.symm⟩

namespace SlotCounts

theorem next_within_take (counts : SlotCounts) (kind : Kind) :
    (counts.next kind).Within (counts.take kind) := by
  cases kind <;> simp [Location.Within, next, take, Kind.isPrimitive]

theorem next_index_le_take (counts : SlotCounts) (kind other : Kind) :
    (counts.next other).index ≤ ((counts.take kind).next other).index := by
  unfold next take
  cases kind <;> cases other <;> simp [Kind.isPrimitive]

theorem within_take {location : Location} {counts : SlotCounts} (h : location.Within counts)
    (kind : Kind) : location.Within (counts.take kind) :=
  Nat.lt_of_lt_of_le h (next_index_le_take counts kind location.kind)

/-- The first free slot of a bank is none of those in use. -/
theorem not_overlaps_next {location : Location} {counts : SlotCounts}
    (h : location.Within counts) (kind : Kind) : ¬ location.Overlaps (counts.next kind) := by
  rintro ⟨hkind, hindex⟩
  simp only [Location.Within, next] at h hkind hindex
  rw [hkind] at h
  omega

end SlotCounts

namespace Shape

@[simp] theorem slots_extend (parent : Shape) (serial id : Nat) (name : String) (kind : Kind)
    (slots : SlotCounts) : (extend parent serial id name kind slots).slots = slots := rfl

@[simp] theorem names_empty (serial : Nat) : (empty serial).names = [] := rfl

@[simp] theorem names_extend (parent : Shape) (serial id : Nat) (name : String) (kind : Kind)
    (slots : SlotCounts) :
    (extend parent serial id name kind slots).names = parent.names ++ [name] := by
  simp [names]

theorem names_eq_map_signature (shape : Shape) : shape.names = shape.signature.map Prod.fst := by
  simp [names, signature]

/-- A shape contains the names that it lists. -/
theorem contains_iff_mem_names {shape : Shape} {name : String} :
    shape.contains name = true ↔ name ∈ shape.names := by
  induction shape with
  | empty serial => simp [contains, find?]
  | extend parent serial id n kind slots ih =>
    by_cases h : n = name
    · simp [contains, find?, h]
    · have hne : name ≠ n := fun e => h e.symm
      simpa [contains, find?, h, hne] using ih

theorem find?_eq_none_iff {shape : Shape} {name : String} :
    shape.find? name = none ↔ name ∉ shape.names := by
  rw [← contains_iff_mem_names, contains]
  simp

/-- What a lookup finds is a property. -/
theorem mem_properties_of_find? {shape : Shape} {name : String} {location : Location}
    (h : shape.find? name = some location) : ⟨name, location⟩ ∈ shape.properties := by
  induction shape with
  | empty serial => simp [find?] at h
  | extend parent serial id n kind slots ih =>
    rw [properties_extend, List.mem_append, List.mem_singleton]
    by_cases hn : n = name
    · right
      simpa [find?, hn, eq_comm] using h
    · left
      exact ih (by simpa [find?, hn] using h)

/-- Without repeated names every property is found by its name. -/
theorem find?_of_mem_properties {shape : Shape} (nodup : shape.names.Nodup) {p : Property}
    (h : p ∈ shape.properties) : shape.find? p.name = some p.location := by
  induction shape with
  | empty serial => simp at h
  | extend parent serial id n kind slots ih =>
    rw [names_extend, List.nodup_append] at nodup
    rw [properties_extend, List.mem_append, List.mem_singleton] at h
    rcases h with h | rfl
    · have hname : p.name ∈ parent.names := List.mem_map_of_mem h
      have hne : n ≠ p.name := fun e => nodup.2.2 _ hname n (by simp) e.symm
      rw [find?, if_neg hne]
      exact ih nodup.1 h
    · simp [find?]

/-- The properties of a numbered shape are within its counts. -/
theorem within_of_mem_properties {shape : Shape} (numbered : shape.Numbered) {p : Property}
    (h : p ∈ shape.properties) : p.location.Within shape.slots := by
  induction shape with
  | empty serial => simp at h
  | extend parent serial id n kind slots ih =>
    obtain ⟨hp, rfl⟩ := numbered
    rw [properties_extend, List.mem_append, List.mem_singleton] at h
    rcases h with h | rfl
    · exact SlotCounts.within_take (ih hp h) kind
    · exact SlotCounts.next_within_take parent.slots kind

theorem within_of_find? {shape : Shape} (numbered : shape.Numbered) {name : String}
    {location : Location} (h : shape.find? name = some location) :
    location.Within shape.slots :=
  within_of_mem_properties numbered (mem_properties_of_find? h)

/-- **Different names live in different slots.** -/
theorem not_overlaps_of_find? {shape : Shape} (numbered : shape.Numbered) {a b : String}
    {l m : Location} (hl : shape.find? a = some l) (hm : shape.find? b = some m) (hne : a ≠ b) :
    ¬ l.Overlaps m := by
  induction shape with
  | empty serial => simp [find?] at hl
  | extend parent serial id n kind slots ih =>
    obtain ⟨hp, rfl⟩ := numbered
    rw [find?] at hl hm
    by_cases ha : n = a
    · have hb : n ≠ b := fun e => hne (ha.symm.trans e)
      rw [if_pos ha] at hl
      rw [if_neg hb] at hm
      cases hl
      intro overlap
      exact SlotCounts.not_overlaps_next (within_of_find? hp hm) kind overlap.symm
    · rw [if_neg ha] at hl
      by_cases hb : n = b
      · rw [if_pos hb] at hm
        cases hm
        exact SlotCounts.not_overlaps_next (within_of_find? hp hl) kind
      · rw [if_neg hb] at hm
        exact ih hp hl hm

end Shape

end InlineCache
