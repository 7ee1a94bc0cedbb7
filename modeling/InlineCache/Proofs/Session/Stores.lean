import InlineCache.Proofs.Session.Growth
import InlineCache.Proofs.Store.Checked

/-!
# Stores are kept as their shapes say

Whatever writes, through whatever registries, have led to a store, its banks have exactly the slots
that its shape counts. Names do not occur twice, their slots do not meet, and every slot has a
value. The next write, again through any registry, relies on nothing that is not so: it writes to a
slot that is there or to the next one of a bank, and moves every value along if it has to move. So a
slot that a shape gives to a name can be read in every object that has this shape, and gives the
value of the name there.

## Main definitions

* `AttributeStore.WellLaid`: the banks and the shape of a store agree
* `AttributeStore.WritesSafely`: what a write relies on is so
* `AttributeStore.Answers`: a fetch under a shape gives the value of the name, or nothing

## Main results

* `Fits.wellLaid`, `Fits.writesSafely`, `Fits.answers`: a store that fits its shape is such
* `stores_well_laid`: every store of a reachable session is such
-/

namespace InlineCache

namespace AttributeStore

/-- The banks of the store have as many slots as the shape counts. No name occurs twice, the slots
of different names are different, and the slot of every name is in range and has a value. -/
structure WellLaid (store : AttributeStore) : Prop where
  primitives : store.primitives.size = store.shape.slots.primitive
  boxed : store.boxed.size = store.shape.slots.boxed
  nodup : store.shape.names.Nodup
  apart : ∀ p ∈ store.shape.properties, ∀ q ∈ store.shape.properties, p.name ≠ q.name →
    ¬ p.location.Overlaps q.location
  filled : ∀ p ∈ store.shape.properties,
    p.location.Within store.room ∧ ∃ value, store.fetch p.location = some value

/-- A write to the store, through this registry, relies on nothing that is not so: its assertions
hold, and a migration carries every value over. -/
structure WritesSafely (store : AttributeStore) (space : ShapeSpace) (registry : RegistryId) :
    Prop where
  asserted : ∀ name value,
    store.set? space registry name value = some (store.set space registry name value)
  carried : ∀ name other,
    (store.migrate (space.widen registry store.shape name).1).get other = store.get other

/-- The answer to a fetch under the shape, from the slot that the shape gives the name: the value of
the name in a store with this shape, and nothing in any other. -/
structure Answers (store : AttributeStore) (shape : Shape) (name : String)
    (answer : Option Value) : Prop where
  own : store.shape.same shape = true → ∃ value, store.get name = some value ∧ answer = some value
  foreign : store.shape.same shape = false → answer = none

variable {store : AttributeStore} {space : ShapeSpace} {registry : RegistryId} {shape : Shape}
  {name : String} {location : Location}

theorem Fits.wellLaid (fits : store.Fits) : store.WellLaid where
  primitives := congrArg SlotCounts.primitive fits.room_eq
  boxed := congrArg SlotCounts.boxed fits.room_eq
  nodup := fits.nodup
  apart p hp q hq differ :=
    Shape.not_overlaps_of_find? fits.numbered (Shape.find?_of_mem_properties fits.nodup hp)
      (Shape.find?_of_mem_properties fits.nodup hq) differ
  filled p hp := by
    have within : p.location.Within store.room :=
      fits.room_eq ▸ Shape.within_of_mem_properties fits.numbered hp
    exact ⟨within, Option.isSome_iff_exists.1 (fetch_isSome_iff.2 within)⟩

theorem Fits.writesSafely (fits : store.Fits) (sound : space.Sound)
    (hr : registry.index < space.registries.size) (published : space.Published store.shape) :
    store.WritesSafely space registry where
  asserted := fits.set?_eq sound hr published
  carried := fits.get_migrate_widen sound hr published

/-- A store that fits answers under a published shape. -/
theorem Fits.answers (fits : store.Fits) (published : space.Published store.shape)
    (captured : space.Published shape) (found : shape.find? name = some location) :
    store.Answers shape name (store.fetchIfShape shape location) where
  own same := by
    obtain rfl := published.eq_of_same captured same
    obtain ⟨value, fetched⟩ := fits.exists_fetch found
    refine ⟨value, ?_, by rw [fetchIfShape, if_pos same, fetched]⟩
    rw [get, location?, found, Option.bind_some, fetched]
  foreign other := by
    rw [fetchIfShape, if_neg (by simp [other])]

end AttributeStore

namespace Session

variable {session : Session}

/-- **Stores are kept as their shapes say.** Every store of a reachable session is well laid, and
the next write to it is safe, through whatever registry. Under any published shape, and from the
slot that the shape gives to a name, a fetch gives what the name has in the stores and the objects
with this shape, and nothing in any other. -/
theorem stores_well_laid (reached : session.Reachable) :
    let world := session.world
    (∀ holder, world.HasHolder holder →
      (world.store holder).WellLaid ∧
        ∀ registry, world.HasRegistry registry →
          (world.store holder).WritesSafely world.space registry) ∧
      ∀ shape name location, world.space.Published shape →
        shape.find? name = some location →
        (∀ holder, world.HasHolder holder →
          (world.store holder).Answers shape name
            ((world.store holder).fetchIfShape shape location)) ∧
          ∀ o, world.HasObject o →
            (world.attributes o).Answers shape name (world.fetchIfShape o shape location) := by
  intro world
  have sound : world.Sound := reached.sound
  constructor
  · intro holder there
    have fits := sound.fits holder there
    refine ⟨fits.wellLaid, ?_⟩
    intro registry opened
    exact fits.writesSafely sound.space opened (sound.published holder there)
  · intro shape name location captured found
    have answers : ∀ holder, world.HasHolder holder →
        (world.store holder).Answers shape name
          ((world.store holder).fetchIfShape shape location) := by
      intro holder there
      exact (sound.fits holder there).answers (sound.published holder there) captured found
    exact ⟨answers, fun o there => answers (.object o) there⟩

/-- A store written through two registries, a copy of it with an attribute widened, and a module
with the layout that the store had. -/
def parted : List Action :=
  [.newRegistry, .newRegistry, .newStore ⟨0⟩,
    .setAttribute ⟨0⟩ (.detached ⟨0⟩) "x" (.int 1),
    .setAttribute ⟨1⟩ (.detached ⟨0⟩) "y" (.bool true), .copyStore ⟨0⟩,
    .setAttribute ⟨1⟩ (.detached ⟨1⟩) "x" (.str "one"), .newModule ⟨0⟩ "m",
    .setAttribute ⟨0⟩ (.object (.mod ⟨0⟩)) "x" (.int 2),
    .setAttribute ⟨0⟩ (.object (.mod ⟨0⟩)) "y" (.bool false)]

/-- The copy has a slot in either bank, and may widen the other attribute next. The slot that the
second attribute has in the layout of the store is the module's too, but not the copy's. -/
theorem stores_well_laid_of_parted :
    let world := (empty.run parted).world
    let shape := (world.store (.detached ⟨0⟩)).shape
    let copy := world.store (.detached ⟨1⟩)
    (copy.primitives.size = 1 ∧ copy.boxed.size = 1) ∧
      (∃ written, copy.set? world.space ⟨0⟩ "y" (.int 3) = some written ∧
        written.outcome = .widened) ∧
      world.fetchIfShape (.mod ⟨0⟩) shape ⟨.bool, 1⟩ = some (.bool false) ∧
      copy.fetchIfShape shape ⟨.bool, 1⟩ = none := by
  intro world shape copy
  have reached : (empty.run parted).Reachable := ⟨parted, by decide, rfl⟩
  obtain ⟨stores, answers⟩ := stores_well_laid reached
  obtain ⟨laid, safe⟩ := stores (.detached ⟨1⟩) (by decide)
  obtain ⟨others, objects⟩ := answers shape "y" ⟨.bool, 1⟩ (by decide) (by decide)
  refine ⟨⟨laid.primitives.trans (by decide), laid.boxed.trans (by decide)⟩, ?_, ?_, ?_⟩
  · exact ⟨_, (safe ⟨0⟩ (by decide)).asserted "y" (.int 3), by decide⟩
  · obtain ⟨value, own, fetched⟩ := (objects (.mod ⟨0⟩) (by decide)).own (by decide)
    have now : (world.attributes (.mod ⟨0⟩)).get "y" = some (.bool false) := by decide
    exact fetched.trans (own.symm.trans now)
  · exact (others (.detached ⟨1⟩) (by decide)).foreign (by decide)

end Session

end InlineCache
