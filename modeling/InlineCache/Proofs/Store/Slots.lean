import InlineCache.Proofs.Shape.Slots
import InlineCache.Store
import Mathlib.Data.List.Basic

/-!
# The slots of a store

A store fits its shape if no name occurs twice and the two banks have as many slots as the shape
counts. Then every attribute has a value. Placing a value gives one slot that value, provided the
slot takes it, and leaves every other slot alone; placing values in the order of the properties of
a shape fills both banks without a gap.

## Main definitions

* `AttributeStore.room`: the slots that the banks have
* `AttributeStore.Fits`: the banks are those of the shape

## Main results

* `fetch_place_self`, `fetch_place_of_not_overlaps`: reading a slot after placing a value
* `Fits.get_isSome_iff`: every attribute of a store that fits has a value
* `migrate_spec`: a migrated store has room for its shape, and the value of every name
* `Fits.entries_eq`: listing is reading every name in turn
-/

namespace InlineCache

/-- A word read for a primitive kind is a value of that kind. -/
theorem Value.kind_ofBits {kind : Kind} (h : kind.isPrimitive = true) (word : UInt64) :
    (Value.ofBits kind word).kind = kind := by
  cases kind with
  | boxed => simp at h
  | _ => rfl

namespace AttributeStore

/-- The slots that the banks have. -/
def room (store : AttributeStore) : SlotCounts := ⟨store.primitives.size, store.boxed.size⟩

/-- The banks are those of the shape, and no name occurs twice. -/
structure Fits (store : AttributeStore) : Prop where
  numbered : store.shape.Numbered
  nodup : store.shape.names.Nodup
  room_eq : store.room = store.shape.slots

/-! ## Banks -/

section Bank

variable {α : Type} {bank : Array α} {i j : Nat} {x : α}

theorem getElem?_putSlot_self (h : i ≤ bank.size) : (putSlot bank i x)[i]? = some x := by
  unfold putSlot
  split
  · next hlt => simp [hlt]
  · have e : i = bank.size := by omega
    simp [e]

theorem getElem?_putSlot_of_ne (h : i ≤ bank.size) (hne : i ≠ j) :
    (putSlot bank i x)[j]? = bank[j]? := by
  unfold putSlot
  split
  · simp [hne]
  · have e : j ≠ bank.size := by omega
    simp [Array.getElem?_push, e]

theorem size_putSlot_of_lt (h : i < bank.size) : (putSlot bank i x).size = bank.size := by
  simp [putSlot, h]

theorem size_putSlot_size : (putSlot bank bank.size x).size = bank.size + 1 := by
  simp [putSlot]

end Bank

/-! ## Fetching and placing -/

variable {store : AttributeStore} {location other : Location} {value : Value}

/-- A slot has a value exactly if it is one of the slots of its bank. -/
theorem fetch_isSome_iff : (store.fetch location).isSome = true ↔ location.Within store.room := by
  unfold fetch Location.Within SlotCounts.next room
  split <;> simp

/-- The value in a slot is one that the slot takes. -/
theorem accepts_of_fetch (h : store.fetch location = some value) :
    location.kind.accepts value.kind = true := by
  unfold fetch at h
  split at h
  · next primitive =>
    obtain ⟨word, -, rfl⟩ := Option.map_eq_some_iff.1 h
    rw [Value.kind_ofBits primitive, Kind.accepts_self]
  · next boxed =>
    have e : location.kind = .boxed := by simpa using mt Kind.isPrimitive_iff.2 boxed
    rw [e, Kind.boxed_accepts]

/-- A placed value is in its slot, provided the slot takes it and its bank has no gap before. -/
theorem fetch_place_self (room : location.index ≤ (store.room.next location.kind).index)
    (accepts : location.kind.accepts value.kind = true) :
    (store.place location value).fetch location = some value := by
  unfold SlotCounts.next AttributeStore.room at room
  -- A primitive slot takes values of its own kind only, so the word decodes to what was encoded.
  by_cases primitive : location.kind.isPrimitive = true
  · have e : location.kind = value.kind := by
      rcases Kind.accepts_iff.1 accepts with boxed | e
      · exact absurd boxed (Kind.isPrimitive_iff.1 primitive)
      · exact e
    simp only [primitive, if_true] at room
    simp only [fetch, place, primitive, if_true, getElem?_putSlot_self room, Option.map_some]
    rw [e, Value.ofBits_bits (e ▸ primitive)]
  · simp only [primitive] at room
    simp [fetch, place, primitive, getElem?_putSlot_self room]

/-- Placing a value leaves every other slot alone. -/
theorem fetch_place_of_not_overlaps (room : location.index ≤ (store.room.next location.kind).index)
    (apart : ¬ location.Overlaps other) :
    (store.place location value).fetch other = store.fetch other := by
  unfold SlotCounts.next AttributeStore.room at room
  unfold Location.Overlaps at apart
  -- Slots of different banks never meet; slots of one bank differ in position.
  by_cases hl : location.kind.isPrimitive = true <;> by_cases ho : other.kind.isPrimitive = true
  · have hne : location.index ≠ other.index := by simpa [hl, ho] using apart
    simp only [hl, if_true] at room
    simp [fetch, place, hl, ho, getElem?_putSlot_of_ne room hne]
  · simp [fetch, place, hl, ho]
  · simp [fetch, place, hl, ho]
  · have hne : location.index ≠ other.index := by simpa [hl, ho] using apart
    simp only [hl] at room
    simp [fetch, place, hl, ho, getElem?_putSlot_of_ne room hne]

/-- Placing into a slot that is there makes no room. -/
theorem room_place_of_within (h : location.Within store.room) :
    (store.place location value).room = store.room := by
  unfold Location.Within SlotCounts.next room at h
  unfold place room
  by_cases hl : location.kind.isPrimitive = true
  · simp only [hl, if_true] at h
    simp [hl, size_putSlot_of_lt h]
  · simp only [hl] at h
    simp [hl, size_putSlot_of_lt h]

/-- Placing into the first free slot makes room for one more. -/
theorem room_place_next (kind : Kind) :
    (store.place (store.room.next kind) value).room = store.room.take kind := by
  unfold place room SlotCounts.next SlotCounts.take
  cases kind <;> simp [Kind.isPrimitive, size_putSlot_size]

/-! ## Reading by name -/

/-- A store that fits its shape has a value in every slot that the shape gives out. -/
theorem Fits.exists_fetch (fits : store.Fits) {name : String}
    (found : store.shape.find? name = some location) :
    ∃ value, store.fetch location = some value := by
  rw [← Option.isSome_iff_exists, fetch_isSome_iff, fits.room_eq]
  exact Shape.within_of_find? fits.numbered found

/-- Every attribute of a store that fits has a value. -/
theorem Fits.get_isSome_iff (fits : store.Fits) {name : String} :
    (store.get name).isSome = true ↔ name ∈ store.shape.names := by
  rw [← Shape.contains_iff_mem_names, Shape.contains, get, location?]
  cases found : store.shape.find? name with
  | none => simp
  | some location =>
    obtain ⟨value, fetched⟩ := fits.exists_fetch found
    simp [fetched]

theorem Fits.get_eq_fetch (fits : store.Fits) {p : Property} (h : p ∈ store.shape.properties) :
    store.get p.name = store.fetch p.location := by
  simp [get, location?, Shape.find?_of_mem_properties fits.nodup h]

/-- Listing the attributes is reading every name in turn. -/
theorem Fits.entries_eq (fits : store.Fits) :
    store.entries = store.shape.names.filterMap fun name => (store.get name).map (name, ·) := by
  unfold entries Shape.names
  rw [List.filterMap_map]
  refine List.filterMap_congr fun p hp => ?_
  rw [Function.comp_apply, fits.get_eq_fetch hp]

/-! ## Migrating -/

/-- **Placing values in the order of the properties of a shape fills its slots**: the banks have no
gap, and every slot has the value that was placed into it. -/
theorem foldl_place {target : Shape} (numbered : target.Numbered) (root : Shape)
    (values : Property → Option Value)
    (taken : ∀ p ∈ target.properties,
      ∃ value, values p = some value ∧ p.location.kind.accepts value.kind = true) :
    let filled := (target.properties.filterMap fun p => (values p).map (p.location, ·)).foldl
      (fun filled entry => filled.place entry.1 entry.2) (ofEmpty root)
    filled.shape = root ∧ filled.room = target.slots ∧
      ∀ p ∈ target.properties, filled.fetch p.location = values p := by
  -- The properties of a shape are those of its parent and one more, which is placed last.
  induction target with
  | empty serial => exact ⟨rfl, rfl, by simp⟩
  | extend parent serial id name kind slots ih =>
    obtain ⟨hp, rfl⟩ := numbered
    simp only [Shape.properties_extend, List.mem_append, List.mem_singleton] at taken ⊢
    obtain ⟨shape, room, fetched⟩ := ih hp fun p h => taken p (.inl h)
    obtain ⟨value, hv, accepts⟩ := taken _ (.inr rfl)
    simp only [List.filterMap_append, List.foldl_append, List.filterMap_cons, hv, Option.map_some,
      List.filterMap_nil, List.foldl_cons, List.foldl_nil, Shape.slots_extend, place_shape]
    generalize (parent.properties.filterMap fun p => (values p).map (p.location, ·)).foldl
      (fun filled entry => filled.place entry.1 entry.2) (ofEmpty root) = filled
      at shape room fetched ⊢
    have free : (parent.slots.next kind).index ≤ (filled.room.next kind).index :=
      Nat.le_of_eq (by rw [room])
    refine ⟨shape, room ▸ room_place_next kind, ?_⟩
    rintro p (h | rfl)
    · have within := Shape.within_of_mem_properties hp h
      rw [fetch_place_of_not_overlaps free]
      · exact fetched p h
      · exact fun overlap => SlotCounts.not_overlaps_next within kind overlap.symm
    · exact (fetch_place_self free accepts).trans hv.symm

/-- A store that migrates to a shape has room for it, and keeps the value of every name. -/
theorem migrate_spec {target : Shape} (numbered : target.Numbered)
    (taken : ∀ p ∈ target.properties,
      ∃ value, store.get p.name = some value ∧ p.location.kind.accepts value.kind = true) :
    (store.migrate target).shape = target ∧ (store.migrate target).room = target.slots ∧
      ∀ p ∈ target.properties, (store.migrate target).fetch p.location = store.get p.name :=
  foldl_place numbered target (fun p => store.get p.name) taken

/-- The size of a store is the number of its names. -/
theorem size_eq (store : AttributeStore) : store.size = store.shape.names.length := by
  rw [size, Shape.size_eq_length, Shape.names, List.length_map]

end AttributeStore

end InlineCache
