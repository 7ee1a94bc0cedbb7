import InlineCache.Proofs.Shape.Publication
import InlineCache.Proofs.Store.Slots

/-!
# A write assigns one name

Whichever way a write goes, in place, to a new slot, or through a new layout with the slot widened,
the store afterwards fits its shape again, the name has the value that was written, every other name
has the value that it had, and the names are listed in the order in which they were first written.

## Main definitions

* `AttributeStore.Assigns`: what a write does, seen by name

## Main results

* `set_assigns`: a write assigns its value to its name
* `shape_set_of_inPlace`: a write in place keeps the shape
-/

namespace InlineCache

namespace AttributeStore

/-- The write gave `name` the value and left every other name alone; the store fits its shape
again, in a sound space. -/
structure Assigns (store : AttributeStore) (space : ShapeSpace) (name : String) (value : Value)
    (written : Written) : Prop where
  fits : written.store.Fits
  sound : written.space.Sound
  ext : space.Extends written.space
  published : written.space.Published written.store.shape
  names_eq : written.store.shape.names =
    if name ∈ store.shape.names then store.shape.names else store.shape.names ++ [name]
  get_self : written.store.get name = some value
  get_of_ne : ∀ other, other ≠ name → written.store.get other = store.get other

variable {store : AttributeStore} {space : ShapeSpace} {registry : RegistryId} {name : String}
  {value : Value} {location : Location}

/-! ## Placing into the slot of a name -/

theorem Fits.room_of_find? (fits : store.Fits) (found : store.shape.find? name = some location) :
    location.index < (store.room.next location.kind).index :=
  fits.room_eq ▸ Shape.within_of_find? fits.numbered found

theorem Fits.place (fits : store.Fits) (found : store.shape.find? name = some location) :
    (store.place location value).Fits where
  numbered := by simpa using fits.numbered
  nodup := by simpa using fits.nodup
  room_eq := by
    rw [room_place_of_within (fits.room_of_find? found), place_shape, fits.room_eq]

theorem Fits.get_place_self (fits : store.Fits) (found : store.shape.find? name = some location)
    (accepts : location.kind.accepts value.kind = true) :
    (store.place location value).get name = some value := by
  have room := Nat.le_of_lt (fits.room_of_find? found)
  simp [get, location?, found, fetch_place_self room accepts]

theorem Fits.get_place_of_ne (fits : store.Fits) (found : store.shape.find? name = some location)
    {other : String} (hne : other ≠ name) :
    (store.place location value).get other = store.get other := by
  simp only [get, location?, place_shape]
  cases ho : store.shape.find? other with
  | none => rfl
  | some m =>
    have apart := Shape.not_overlaps_of_find? fits.numbered found ho (Ne.symm hne)
    exact fetch_place_of_not_overlaps (Nat.le_of_lt (fits.room_of_find? found)) apart

/-! ## The three ways of a write -/

theorem set_of_accepts (found : store.location? name = some location)
    (accepts : location.kind.accepts value.kind = true) :
    store.set space registry name value = ⟨.inPlace, store.place location value, space⟩ := by
  simp [set, found, accepts]

/-- A write in place keeps the shape. -/
theorem shape_set_of_inPlace (h : (store.set space registry name value).outcome = .inPlace) :
    (store.set space registry name value).store.shape = store.shape := by
  rw [set_outcome] at h
  cases found : store.location? name with
  | none => simp [found] at h
  | some location =>
    have accepts : location.kind.accepts value.kind = true := by
      by_contra refused
      simp [found, refused] at h
    rw [set_of_accepts found accepts, place_shape]

theorem Fits.assigns_inPlace (fits : store.Fits) (sound : space.Sound)
    (published : space.Published store.shape) (found : store.location? name = some location)
    (accepts : location.kind.accepts value.kind = true) :
    store.Assigns space name value (store.set space registry name value) := by
  rw [set_of_accepts found accepts]
  have mem : name ∈ store.shape.names :=
    List.mem_map_of_mem (Shape.mem_properties_of_find? found)
  exact
    { fits := fits.place found
      sound := sound
      ext := .refl space
      published := by simpa using published
      names_eq := by simp [mem]
      get_self := fits.get_place_self found accepts
      get_of_ne := fun _ hne => fits.get_place_of_ne found hne }

theorem Fits.assigns_added (fits : store.Fits) (sound : space.Sound)
    (hr : registry.index < space.registries.size) (published : space.Published store.shape)
    (absent : store.location? name = none) :
    store.Assigns space name value (store.set space registry name value) := by
  obtain ⟨grown, serial, id, successor⟩ := sound.withAttribute hr published name value.kind
  have fresh : name ∉ store.shape.names := Shape.find?_eq_none_iff.1 absent
  have added : store.set space registry name value =
      ⟨.added, { store with shape := store.shape.successor serial id name value.kind }.place
          (store.room.next value.kind) value,
        (space.withAttribute registry store.shape name value.kind).2⟩ := by
    simp only [set, absent, successor, fits.room_eq]
    rfl
  have free : ((store.room.next value.kind).index ≤ (store.room.next value.kind).index) :=
    Nat.le_refl _
  have names : (store.shape.successor serial id name value.kind).names =
      store.shape.names ++ [name] := Shape.names_extend ..
  rw [added]
  refine ⟨⟨?_, ?_, ?_⟩, grown.sound, grown.ext, ?_, ?_, ?_, ?_⟩
  · rw [place_shape]
    exact Shape.numbered_successor fits.numbered ..
  · simp only [place_shape, names]
    rw [List.nodup_append]
    refine ⟨fits.nodup, by simp, ?_⟩
    rintro a ha b hb rfl
    exact fresh (List.mem_singleton.1 hb ▸ ha)
  · rw [place_shape]
    refine Eq.trans (room_place_next value.kind) ?_
    show store.room.take value.kind = _
    rw [fits.room_eq]
    rfl
  · rw [place_shape, ← successor]
    exact grown.published
  · rw [place_shape, names, if_neg fresh]
  · simp only [get, location?, place_shape, Shape.successor, Shape.find?, if_true, ← fits.room_eq,
      Option.bind_some]
    exact fetch_place_self free (Kind.accepts_self _)
  · intro other hne
    have older : (store.shape.successor serial id name value.kind).find? other =
        store.shape.find? other := by
      rw [Shape.successor, Shape.find?, if_neg hne.symm]
    simp only [get, location?, place_shape, older]
    cases ho : store.shape.find? other with
    | none => rfl
    | some m =>
      have within := Shape.within_of_find? fits.numbered ho
      refine fetch_place_of_not_overlaps free fun overlap => ?_
      exact SlotCounts.not_overlaps_next within value.kind (fits.room_eq ▸ overlap.symm)

/-! ## Widening -/

/-- A store that fits has a value for every name of a layout with the same names. -/
theorem Fits.exists_taken (fits : store.Fits) {target : Shape}
    (names : target.names = store.shape.names)
    (taken : ∀ p ∈ target.properties, ∀ value, store.get p.name = some value →
      p.location.kind.accepts value.kind = true) :
    ∀ p ∈ target.properties,
      ∃ value, store.get p.name = some value ∧ p.location.kind.accepts value.kind = true := by
  intro p hp
  have mem : p.name ∈ store.shape.names := names ▸ List.mem_map_of_mem hp
  obtain ⟨value, hv⟩ := Option.isSome_iff_exists.1 (fits.get_isSome_iff.2 mem)
  exact ⟨value, hv, taken p hp value hv⟩

/-- A store that migrates reads as before under every name, if the names are the same and every
slot takes what the name had. -/
theorem Fits.migrate (fits : store.Fits) {target : Shape} (numbered : target.Numbered)
    (names : target.names = store.shape.names)
    (taken : ∀ p ∈ target.properties, ∀ value, store.get p.name = some value →
      p.location.kind.accepts value.kind = true) :
    (store.migrate target).Fits ∧ (store.migrate target).shape = target ∧
      ∀ other, (store.migrate target).get other = store.get other := by
  obtain ⟨shape, room, fetched⟩ := migrate_spec numbered (fits.exists_taken names taken)
  have moved : (store.migrate target).Fits :=
    ⟨by rwa [shape], by rw [shape, names]; exact fits.nodup, by rw [shape, room]⟩
  refine ⟨moved, shape, fun other => ?_⟩
  by_cases mem : other ∈ target.names
  · obtain ⟨p, hp, rfl⟩ := List.mem_map.1 mem
    rw [moved.get_eq_fetch (by rwa [shape])]
    exact fetched p hp
  · have gone := mt moved.get_isSome_iff.1 (by rwa [shape])
    have absent := mt fits.get_isSome_iff.1 (names ▸ mem)
    rw [Option.not_isSome_iff_eq_none.1 gone, Option.not_isSome_iff_eq_none.1 absent]

/-- A property of a widened shape stands for one of the shape before: that of the widened name is
boxed, any other has the kind that it had. -/
theorem exists_property_of_boxing {shape target : Shape}
    (h : target.signature = ShapeSpace.boxing name shape.signature) {p : Property}
    (hp : p ∈ target.properties) :
    ∃ q ∈ shape.properties, q.name = p.name ∧
      p.location.kind = if p.name = name then .boxed else q.location.kind := by
  have mem : (p.name, p.location.kind) ∈ ShapeSpace.boxing name shape.signature :=
    h ▸ List.mem_map_of_mem hp
  obtain ⟨entry, hentry, boxed⟩ := List.mem_map.1 mem
  obtain ⟨q, hq, rfl⟩ := List.mem_map.1 hentry
  refine ⟨q, hq, ?_⟩
  by_cases hn : q.name = name
  · simp only [hn, if_true, Prod.mk.injEq] at boxed
    obtain ⟨pname, pkind⟩ := boxed
    exact ⟨hn.trans pname, by rw [← pname, if_pos rfl, pkind]⟩
  · simp only [hn, if_false, Prod.mk.injEq] at boxed
    obtain ⟨pname, pkind⟩ := boxed
    exact ⟨pname, by rw [← pname, if_neg hn, pkind]⟩

theorem names_of_boxing {shape target : Shape}
    (h : target.signature = ShapeSpace.boxing name shape.signature) :
    target.names = shape.names := by
  rw [Shape.names_eq_map_signature, Shape.names_eq_map_signature, h, ShapeSpace.boxing,
    List.map_map]
  refine List.map_congr_left fun entry _ => ?_
  rw [Function.comp_apply]
  split <;> rfl

/-- The slots of a widened shape take what the store has: that of the name is boxed, and the others
take what they held before. -/
theorem Fits.taken_of_boxing (fits : store.Fits) {target : Shape}
    (h : target.signature = ShapeSpace.boxing name store.shape.signature) :
    ∀ p ∈ target.properties, ∀ value, store.get p.name = some value →
      p.location.kind.accepts value.kind = true := by
  intro p hp value hv
  obtain ⟨q, hq, qname, pkind⟩ := exists_property_of_boxing h hp
  rw [← qname, fits.get_eq_fetch hq] at hv
  rw [pkind]
  split
  · exact Kind.boxed_accepts _
  · exact accepts_of_fetch hv

theorem Fits.assigns_widened (fits : store.Fits) (sound : space.Sound)
    (hr : registry.index < space.registries.size) (published : space.Published store.shape)
    (found : store.location? name = some location)
    (refused : location.kind.accepts value.kind ≠ true) :
    store.Assigns space name value (store.set space registry name value) := by
  have primitive := (Kind.not_accepts_iff.1 refused).1
  have grown := sound.widen hr published name
  have signature := ShapeSpace.signature_widen sound hr found primitive
  have names := names_of_boxing signature
  have mem : name ∈ store.shape.names :=
    List.mem_map_of_mem (Shape.mem_properties_of_find? found)
  obtain ⟨moved, shape, get⟩ := fits.migrate (grown.sound.numbered _ grown.published) names
    (fits.taken_of_boxing signature)
  obtain ⟨slot, hslot⟩ : ∃ slot,
      (store.migrate (space.widen registry store.shape name).1).location? name = some slot := by
    have present := Shape.contains_iff_mem_names.2 (names ▸ mem)
    rw [← shape] at present
    exact Option.isSome_iff_exists.1 present
  have boxed : slot.kind = .boxed := by
    obtain ⟨q, -, -, pkind⟩ := exists_property_of_boxing signature
      (shape ▸ Shape.mem_properties_of_find? hslot)
    simpa using pkind
  have written : store.set space registry name value =
      ⟨.widened, (store.migrate (space.widen registry store.shape name).1).place slot value,
        (space.widen registry store.shape name).2⟩ := by
    simp only [set, found, if_neg refused, overwrite, hslot]
  rw [written]
  exact
    { fits := moved.place hslot
      sound := grown.sound
      ext := grown.ext
      published := by
        rw [place_shape, shape]
        exact grown.published
      names_eq := by rw [place_shape, shape, names, if_pos mem]
      get_self := moved.get_place_self hslot (boxed ▸ Kind.boxed_accepts _)
      get_of_ne := fun other hne => (moved.get_place_of_ne hslot hne).trans (get other) }

/-- **A write assigns its value to its name**, and keeps everything else. -/
theorem Fits.set_assigns (fits : store.Fits) (sound : space.Sound)
    (hr : registry.index < space.registries.size) (published : space.Published store.shape)
    (name : String) (value : Value) :
    store.Assigns space name value (store.set space registry name value) := by
  cases found : store.location? name with
  | none => exact fits.assigns_added sound hr published found
  | some location =>
    by_cases accepts : location.kind.accepts value.kind = true
    · exact fits.assigns_inPlace sound published found accepts
    · exact fits.assigns_widened sound hr published found accepts

end AttributeStore

end InlineCache
