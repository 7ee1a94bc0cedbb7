import InlineCache.Proofs.Store.Writing

/-!
# Writes that assert what they rely on

A write relies on three things without asking. Whatever it places goes to a slot that is there, or
to the very next one of its bank, so that no slot is left out. Whatever it moves to another layout
has a value for every property of that layout, so that none is left behind. And a layout that was
made for a new name has a property, so that there is a slot to write to. Here a write is defined
anew that asserts all of this and gives nothing as soon as an assertion fails. For a store that fits
its shape it gives what the write gives: no assertion ever fails.

## Main definitions

* `AttributeStore.place?`, `AttributeStore.migrate?`, `AttributeStore.set?`: placing, migrating and
  writing with assertions

## Main results

* `foldlM_place?`: values placed in the order of the properties of a shape find the next slot
* `Fits.taken_widen`: a store has values for the widened layout, and they are taken there
* `Fits.set?_eq`: the assertions of a write hold
-/

namespace InlineCache

namespace AttributeStore

/-! ## Asserting -/

/-- Overwrites a slot of a bank, or appends the very next one. -/
def putSlot? {α : Type} (bank : Array α) (index : Nat) (x : α) : Option (Array α) :=
  if index < bank.size then some (bank.setIfInBounds index x)
  else if index = bank.size then some (bank.push x)
  else none

/-- Writes a value into a slot that is there, or into the next one of its bank. -/
def place? (store : AttributeStore) (location : Location) (value : Value) :
    Option AttributeStore :=
  if location.kind.isPrimitive then
    (putSlot? store.primitives location.index value.bits).map ({ store with primitives := · })
  else
    (putSlot? store.boxed location.index value).map ({ store with boxed := · })

/-- Moves the values to another layout. Every property of the layout has to have one. -/
def migrate? (store : AttributeStore) (target : Shape) : Option AttributeStore := do
  let values ← target.properties.mapM fun p => (store.get p.name).map (p.location, ·)
  values.foldlM (fun moved entry => moved.place? entry.1 entry.2) (ofEmpty target)

/-- Writes an attribute. A widened name has to have a slot, and so has a new one, as the property
that the new layout adds. -/
def set? (store : AttributeStore) (space : ShapeSpace) (registry : RegistryId) (name : String)
    (value : Value) : Option Written :=
  match store.location? name with
  | some location =>
    if location.kind.accepts value.kind then
      (store.place? location value).map (⟨.inPlace, ·, space⟩)
    else do
      let widened := space.widen registry store.shape name
      let moved ← store.migrate? widened.1
      let location ← moved.location? name
      let placed ← moved.place? location value
      return ⟨.widened, placed, widened.2⟩
  | none => do
    let next := space.withAttribute registry store.shape name value.kind
    let property ← next.1.property?
    let placed ← { store with shape := next.1 }.place? property.location value
    return ⟨.added, placed, next.2⟩

/-! ## The assertions hold -/

variable {store : AttributeStore} {space : ShapeSpace} {registry : RegistryId} {target : Shape}
  {name : String} {value : Value} {location : Location}

theorem putSlot?_eq {α : Type} {bank : Array α} {index : Nat} (h : index ≤ bank.size) (x : α) :
    putSlot? bank index x = some (putSlot bank index x) := by
  unfold putSlot? putSlot
  split
  · rfl
  · next beyond =>
    have last : index = bank.size := by omega
    rw [if_pos last]

/-- Placing needs a bank without a gap before the slot. -/
theorem place?_eq (room : location.index ≤ (store.room.next location.kind).index) (value : Value) :
    store.place? location value = some (store.place location value) := by
  unfold SlotCounts.next AttributeStore.room at room
  unfold place? place
  by_cases primitive : location.kind.isPrimitive = true
  · simp only [primitive, if_true] at room ⊢
    rw [putSlot?_eq room]
    rfl
  · simp only [primitive] at room ⊢
    rw [if_neg (by simp), if_neg (by simp), putSlot?_eq room]
    rfl

theorem Fits.place?_eq (fits : store.Fits) (found : store.location? name = some location)
    (value : Value) : store.place? location value = some (store.place location value) :=
  AttributeStore.place?_eq (Nat.le_of_lt (fits.room_of_find? found)) value

/-- The next slot for a kind is the one that a successor of the shape gives out. -/
theorem Fits.place?_next (fits : store.Fits) (shape : Shape) (value : Value) :
    { store with shape }.place? (store.shape.slots.next value.kind) value =
      some ({ store with shape }.place (store.shape.slots.next value.kind) value) := by
  refine AttributeStore.place?_eq (Nat.le_of_eq ?_) value
  rw [← fits.room_eq]
  rfl

/-- If a function has a value everywhere on a list, collecting the values drops none. -/
theorem mapM_eq_filterMap {α β : Type} {f : α → Option β} {l : List α}
    (valued : ∀ x ∈ l, ∃ y, f x = some y) : l.mapM f = some (l.filterMap f) := by
  induction l with
  | nil => rfl
  | cons x rest ih =>
    rw [List.forall_mem_cons] at valued
    obtain ⟨y, hy⟩ := valued.1
    rw [List.mapM_cons, ih valued.2, hy, List.filterMap_cons_some hy]
    rfl

/-- **Values placed in the order of the properties** of a shape find their slot the next one of its
bank, each in its turn. -/
theorem foldlM_place? (numbered : target.Numbered) (root : Shape)
    (values : Property → Option Value)
    (taken : ∀ p ∈ target.properties,
      ∃ value, values p = some value ∧ p.location.kind.accepts value.kind = true) :
    let entries := target.properties.filterMap fun p => (values p).map (p.location, ·)
    entries.foldlM (fun filled entry => filled.place? entry.1 entry.2) (ofEmpty root) =
      some (entries.foldl (fun filled entry => filled.place entry.1 entry.2) (ofEmpty root)) := by
  -- Placed in the order of the parent, the values before the last one fill the parent's slots.
  induction target with
  | empty serial => rfl
  | extend parent serial id name kind slots ih =>
    obtain ⟨hp, rfl⟩ := numbered
    simp only [Shape.properties_extend, List.mem_append, List.mem_singleton] at taken ⊢
    have before := fun p h => taken p (.inl h)
    obtain ⟨-, room, -⟩ := foldl_place hp root values before
    obtain ⟨value, hv, -⟩ := taken _ (.inr rfl)
    simp only [List.filterMap_append, List.foldlM_append, List.foldl_append, List.filterMap_cons,
      hv, Option.map_some, List.filterMap_nil, List.foldl_cons, List.foldl_nil]
    rw [ih hp before, Option.bind_eq_bind, Option.bind_some, List.foldlM_cons, place?_eq]
    · rfl
    · rw [room]
      exact Nat.le_refl _

theorem migrate?_eq (numbered : target.Numbered)
    (taken : ∀ p ∈ target.properties,
      ∃ value, store.get p.name = some value ∧ p.location.kind.accepts value.kind = true) :
    store.migrate? target = some (store.migrate target) := by
  have valued : ∀ p ∈ target.properties,
      ∃ entry, (store.get p.name).map (p.location, ·) = some entry := by
    intro p hp
    obtain ⟨value, hv, -⟩ := taken p hp
    exact ⟨_, by rw [hv, Option.map_some]⟩
  rw [migrate?, mapM_eq_filterMap valued]
  exact foldlM_place? numbered target (fun p => store.get p.name) taken

/-! ## Writing -/

/-- **A store has values for a widened layout**, and the layout takes them. That a name is absent or
boxed already makes no difference: then the layout is the one that the store has. -/
theorem Fits.taken_widen (fits : store.Fits) (sound : space.Sound)
    (hr : registry.index < space.registries.size) (published : space.Published store.shape)
    (name : String) :
    let target := (space.widen registry store.shape name).1
    target.Numbered ∧ target.names = store.shape.names ∧
      ∀ p ∈ target.properties, ∀ value, store.get p.name = some value →
        p.location.kind.accepts value.kind = true := by
  have grown := sound.widen hr published name
  refine ⟨grown.sound.numbered _ grown.published, ?_⟩
  by_cases primitive : ∃ location, store.shape.find? name = some location ∧
      location.kind.isPrimitive = true
  · obtain ⟨location, found, primitive⟩ := primitive
    have signature := ShapeSpace.signature_widen sound hr found primitive
    exact ⟨names_of_boxing signature, fits.taken_of_boxing signature⟩
  · have same : space.widen registry store.shape name = (store.shape, space) := by
      unfold ShapeSpace.widen
      split
      · next location found =>
        exact if_neg fun boxed => primitive ⟨location, found, boxed⟩
      · rfl
    rw [same]
    refine ⟨rfl, fun p hp value hv => ?_⟩
    rw [fits.get_eq_fetch hp] at hv
    exact accepts_of_fetch hv

/-- **Migrating to a widened layout** carries every value over. -/
theorem Fits.get_migrate_widen (fits : store.Fits) (sound : space.Sound)
    (hr : registry.index < space.registries.size) (published : space.Published store.shape)
    (name other : String) :
    (store.migrate (space.widen registry store.shape name).1).get other = store.get other := by
  obtain ⟨numbered, names, taken⟩ := fits.taken_widen sound hr published name
  exact (fits.migrate numbered names taken).2.2 other

/-- **The assertions of a write hold.** -/
theorem Fits.set?_eq (fits : store.Fits) (sound : space.Sound)
    (hr : registry.index < space.registries.size) (published : space.Published store.shape)
    (name : String) (value : Value) :
    store.set? space registry name value = some (store.set space registry name value) := by
  unfold set? set
  cases found : store.location? name with
  | none =>
    obtain ⟨-, serial, id, successor⟩ := sound.withAttribute hr published name value.kind
    dsimp only
    rw [successor]
    have placed := fits.place?_next (store.shape.successor serial id name value.kind) value
    simp only [Shape.successor, Shape.property?, Option.bind_eq_bind, Option.bind_some] at placed ⊢
    rw [placed]
    rfl
  | some location =>
    dsimp only
    split
    · rw [fits.place?_eq found]
      rfl
    · obtain ⟨numbered, names, taken⟩ := fits.taken_widen sound hr published name
      obtain ⟨moved, shape, -⟩ := fits.migrate numbered names taken
      obtain ⟨slot, hslot⟩ : ∃ slot,
          (store.migrate (space.widen registry store.shape name).1).location? name = some slot := by
        have present : store.shape.contains name = true := Option.isSome_iff_exists.2 ⟨_, found⟩
        rw [Shape.contains_iff_mem_names, ← names, ← shape, ← Shape.contains_iff_mem_names]
          at present
        exact Option.isSome_iff_exists.1 present
      have placed := moved.place?_eq hslot value
      rw [migrate?_eq numbered (fits.exists_taken names taken)]
      simp only [Option.bind_eq_bind, Option.bind_some, hslot, placed, overwrite]
      rfl

end AttributeStore

end InlineCache
