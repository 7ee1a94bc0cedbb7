import InlineCache.Proofs.World.Writing
import InlineCache.World.Describe

/-!
# Erasing the values of a world

Erasing a value leaves one value of each kind. Erasing a world erases every value in every store,
and leaves the shapes, the tokens, the links between classes and the names. An operation on the
world then does to the erased world what it does to the world itself, as long as the value that it
writes is erased as well: what it does depends on the kinds of values only.

## Main definitions

* `Value.erase`, `AttributeStore.erase`, `World.erase`: the same with the values erased

## Main results

* `Value.erase_eq_erase_iff`: erased values are told apart by their kinds
* `AttributeStore.fetch_erase`, `AttributeStore.set_erase`: reading and writing an erased store
* `World.setAttribute_erase`, `World.setSuperclass_erase`: operations on an erased world
-/

namespace InlineCache

/-! ## Values -/

/-- The value of the same kind that says nothing else. -/
def Value.erase : Value → Value
  | bool _ => bool false
  | int _ => int 0
  | float _ => float 0
  | _ => nothing

namespace Value

@[simp] theorem kind_erase (v : Value) : v.erase.kind = v.kind := by
  cases v <;> rfl

/-- Erased values are told apart by their kinds. -/
theorem erase_eq_erase_iff {v w : Value} : v.erase = w.erase ↔ v.kind = w.kind := by
  cases v <;> cases w <;> simp [erase, kind]

/-- Erasing twice is erasing once. -/
@[simp] theorem erase_erase (v : Value) : v.erase.erase = v.erase :=
  erase_eq_erase_iff.2 (kind_erase v)

@[simp] theorem bits_erase (v : Value) : v.erase.bits = 0 := by
  cases v <;> rfl

/-- Whatever a word is read as, erasing the value is erasing the word. -/
@[simp] theorem erase_ofBits (kind : Kind) (word : UInt64) :
    (ofBits kind word).erase = ofBits kind 0 := by
  cases kind <;> rfl

end Value

/-! ## Stores -/

/-- The store with every value erased. -/
def AttributeStore.erase (store : AttributeStore) : AttributeStore where
  shape := store.shape
  primitives := store.primitives.map fun _ => 0
  boxed := store.boxed.map Value.erase

/-- A write that leaves the erased store. -/
def Written.erase (written : Written) : Written := { written with store := written.store.erase }

namespace AttributeStore

variable (store : AttributeStore) (location : Location) (name : String) (value : Value)

@[simp] theorem shape_erase : store.erase.shape = store.shape := rfl

@[simp] theorem location?_erase : store.erase.location? name = store.location? name := rfl

@[simp] theorem erase_ofEmpty (root : Shape) : (ofEmpty root).erase = ofEmpty root := by
  simp [erase, ofEmpty]

/-- An erased store has a value in the same slots, each of the kind that it had. -/
theorem fetch_erase : store.erase.fetch location = (store.fetch location).map Value.erase := by
  unfold fetch erase
  split <;> simp [Function.comp_def]

theorem get_erase : store.erase.get name = (store.get name).map Value.erase := by
  unfold get
  rw [location?_erase]
  cases store.location? name with
  | none => rfl
  | some location => exact fetch_erase store location

theorem lookup_erase :
    store.erase.lookup name = (store.lookup name).map fun found => (found.1, found.2.erase) := by
  unfold lookup
  rw [location?_erase]
  cases store.location? name with
  | none => rfl
  | some location => simp [fetch_erase, Function.comp_def]

theorem fetchIfShape_erase (shape : Shape) :
    store.erase.fetchIfShape shape location =
      (store.fetchIfShape shape location).map Value.erase := by
  unfold fetchIfShape
  rw [shape_erase]
  split
  · exact fetch_erase store location
  · rfl

theorem map_putSlot {α β : Type} (f : α → β) (bank : Array α) (index : Nat) (x : α) :
    (putSlot bank index x).map f = putSlot (bank.map f) index (f x) := by
  unfold putSlot
  rw [Array.size_map]
  split
  · exact Array.map_setIfInBounds ..
  · exact Array.map_push ..

theorem place_erase :
    (store.place location value).erase = store.erase.place location value.erase := by
  unfold place
  split <;> simp [erase, map_putSlot]

/-- Values that are placed in turn may be erased before or after. -/
theorem foldl_place_erase (values : List (Location × Value)) (moved : AttributeStore) :
    (values.foldl (fun moved entry => moved.place entry.1 entry.2) moved).erase =
      (values.map fun entry => (entry.1, entry.2.erase)).foldl
        (fun moved entry => moved.place entry.1 entry.2) moved.erase := by
  induction values generalizing moved with
  | nil => rfl
  | cons entry rest ih => rw [List.foldl_cons, ih, place_erase, List.map_cons, List.foldl_cons]

theorem migrate_erase (target : Shape) :
    (store.migrate target).erase = store.erase.migrate target := by
  unfold migrate
  rw [foldl_place_erase, erase_ofEmpty, List.map_filterMap]
  congr 1
  refine List.filterMap_congr fun p _ => ?_
  rw [get_erase]
  cases store.get p.name <;> rfl

theorem overwrite_erase :
    (store.overwrite name value).erase = store.erase.overwrite name value.erase := by
  unfold overwrite
  rw [location?_erase]
  split
  · exact place_erase ..
  · rfl

/-- **A write to an erased store** publishes the same shapes, has the same outcome, and leaves the
erased store. -/
theorem set_erase (space : ShapeSpace) (registry : RegistryId) :
    store.erase.set space registry name value.erase =
      (store.set space registry name value).erase := by
  unfold set
  rw [location?_erase]
  cases store.location? name with
  | none =>
    simp only [Value.kind_erase, Written.erase, place_erase]
    rfl
  | some location =>
    rw [Value.kind_erase]
    dsimp only
    split
    · simp [Written.erase, place_erase]
    · simp [Written.erase, overwrite_erase, migrate_erase]

end AttributeStore

/-! ## Worlds -/

/-- The class with the values of its attributes erased. -/
def ClassObject.erase (object : ClassObject) : ClassObject :=
  { object with attributes := object.attributes.erase }

/-- The instance with the values of its attributes erased. -/
def InstanceObject.erase (object : InstanceObject) : InstanceObject :=
  { object with attributes := object.attributes.erase }

/-- The module with the values of its attributes erased. -/
def ModuleObject.erase (object : ModuleObject) : ModuleObject :=
  { object with attributes := object.attributes.erase }

/-- The world with every value erased. -/
def World.erase (world : World) : World :=
  { world with
    classes := world.classes.map ClassObject.erase
    instances := world.instances.map InstanceObject.erase
    modules := world.modules.map ModuleObject.erase
    stores := world.stores.map AttributeStore.erase }

/-- A step that leaves the erased world. -/
def Step.erase {α : Type} (step : Step α) : Step α := { step with world := step.world.erase }

namespace World

variable (world : World) (c : ClassId) (i : InstanceId) (o : ObjectId) (holder : Holder)
  (registry : RegistryId) (name : String) (value : Value)

/-! ### Looking up -/

theorem getD_map {α : Type} (xs : Array α) {f : α → α} {x : α} (h : f x = x) (index : Nat) :
    (xs.map f).getD index x = f (xs.getD index x) := by
  rw [Array.getD_eq_getD_getElem?, Array.getD_eq_getD_getElem?, Array.getElem?_map]
  cases xs[index]? with
  | none => exact h.symm
  | some y => rfl

theorem default_erase : (default : AttributeStore).erase = default :=
  AttributeStore.erase_ofEmpty _

theorem classObject_erase : world.erase.classObject c = (world.classObject c).erase :=
  getD_map world.classes (congrArg (ClassObject.mk _ _ _) default_erase) c.index

theorem instanceObject_erase : world.erase.instanceObject i = (world.instanceObject i).erase :=
  getD_map world.instances (congrArg (InstanceObject.mk _) default_erase) i.index

theorem moduleObject_erase (m : ModuleId) :
    world.erase.moduleObject m = (world.moduleObject m).erase :=
  getD_map world.modules (congrArg (ModuleObject.mk _) default_erase) m.index

@[simp] theorem superclass_erase : world.erase.superclass c = world.superclass c := by
  rw [superclass, classObject_erase]
  rfl

@[simp] theorem currentAssumption_erase :
    world.erase.currentAssumption c = world.currentAssumption c := by
  rw [currentAssumption, classObject_erase]
  rfl

@[simp] theorem className_erase : world.erase.className c = world.className c := by
  rw [className, classObject_erase]
  rfl

@[simp] theorem classOf_erase : world.erase.classOf i = world.classOf i := by
  rw [classOf, instanceObject_erase]
  rfl

@[simp] theorem holds_erase (a : Assumption) : world.erase.holds a = world.holds a := rfl

@[simp] theorem space_erase : world.erase.space = world.space := rfl

theorem attributes_erase : world.erase.attributes o = (world.attributes o).erase := by
  cases o with
  | inst i => rw [attributes, instanceObject_erase]; rfl
  | cls c => rw [attributes, classObject_erase]; rfl
  | mod m => rw [attributes, moduleObject_erase]; rfl

theorem store_erase : world.erase.store holder = (world.store holder).erase := by
  cases holder with
  | object o => exact attributes_erase world o
  | detached s => exact getD_map world.stores default_erase s.index

@[simp] theorem layout_erase : world.erase.layout o = world.layout o := by
  rw [layout, attributes_erase]
  rfl

@[simp] theorem describe_erase : world.erase.describe o = world.describe o := by
  cases o <;> simp [describe]

/-! ### The class hierarchy -/

@[simp] theorem lineageWithin_erase (fuel : Nat) (first : Option ClassId) :
    world.erase.lineageWithin fuel first = world.lineageWithin fuel first := by
  induction fuel generalizing first with
  | zero => rfl
  | succ fuel ih =>
    cases first with
    | none => rfl
    | some c => rw [lineageWithin, lineageWithin, superclass_erase, ih]

@[simp] theorem lineage_erase (first : Option ClassId) :
    world.erase.lineage first = world.lineage first := by
  rw [lineage, lineageWithin_erase, lineage, erase, Array.size_map]

@[simp] theorem isSubclassOf_erase (a b : ClassId) :
    world.erase.isSubclassOf a b = world.isSubclassOf a b := by
  rw [isSubclassOf, superclass_erase, lineage_erase, isSubclassOf]

/-! ### Updating -/

theorem map_modify {α β : Type} {f : α → β} {g : α → α} {k : β → β} (h : ∀ x, f (g x) = k (f x))
    (xs : Array α) (index : Nat) : (xs.modify index g).map f = (xs.map f).modify index k := by
  refine Array.ext_getElem? fun j => ?_
  rw [Array.getElem?_map, Array.getElem?_modify, Array.getElem?_modify, Array.getElem?_map]
  split
  · cases xs[j]? with
    | none => rfl
    | some x => exact congrArg some (h x)
  · rfl

theorem putClass_erase (object : ClassObject) :
    (world.putClass c object).erase = world.erase.putClass c object.erase := by
  simp [putClass, erase, Array.map_setIfInBounds]

/-- Replacing a store and erasing is erasing and replacing it by the erased one. -/
theorem putStore_erase (store : AttributeStore) :
    (world.putStore holder store).erase = world.erase.putStore holder store.erase := by
  rcases holder with (i | c | m) | s
  · simp only [putStore, erase]
    rw [map_modify (k := fun o => { o with attributes := store.erase }) (by exact fun _ => rfl)]
  · simp only [putStore, erase]
    rw [map_modify (k := fun o => { o with attributes := store.erase }) (by exact fun _ => rfl)]
  · simp only [putStore, erase]
    rw [map_modify (k := fun o => { o with attributes := store.erase }) (by exact fun _ => rfl)]
  · simp only [putStore, erase, Array.map_setIfInBounds]

/-- Tokens are renewed alike. -/
theorem renewAssumption_erase :
    world.erase.renewAssumption c =
      ((world.renewAssumption c).1, (world.renewAssumption c).2.erase) := by
  have minted : world.erase.mint = (world.mint.1, world.mint.2.erase) := rfl
  simp only [renewAssumption, currentAssumption_erase, minted, classObject_erase]
  refine congrArg (Prod.mk _) ?_
  show ((world.mint.2.erase.putClass c _).invalidate _).2 = _
  have replaced := putClass_erase world.mint.2 c
    { world.mint.2.classObject c with assumption := world.mint.1 }
  exact congrArg (fun later : World => (later.invalidate _).2) replaced.symm

/-! ### Creation -/

theorem newClass_erase (superclass : Option ClassId) :
    (world.erase.newClass registry name superclass).2 =
      (world.newClass registry name superclass).2.erase := by
  simp [newClass, mint, emptyStore, erase, ClassObject.erase]

theorem newInstance_erase :
    (world.erase.newInstance registry c).2 = (world.newInstance registry c).2.erase := by
  simp [newInstance, emptyStore, erase, InstanceObject.erase]

theorem newModule_erase :
    (world.erase.newModule registry name).2 = (world.newModule registry name).2.erase := by
  simp [newModule, emptyStore, erase, ModuleObject.erase]

theorem newStoreOn_erase (root : Shape) :
    (world.erase.newStoreOn root).2 = (world.newStoreOn root).2.erase := by
  simp [newStoreOn, erase]

theorem copyStore_erase (s : StoreId) :
    (world.erase.copyStore s).2 = (world.copyStore s).2.erase := by
  rw [copyStore, store_erase]
  simp only [copyStore, erase, Array.map_push]

/-! ### Writes and links -/

theorem written_erase : world.erase.written registry holder name value.erase =
    (world.written registry holder name value).erase := by
  rw [written, store_erase]
  exact AttributeStore.set_erase ..

theorem outcome_written_erase :
    (world.erase.written registry holder name value.erase).outcome =
      (world.written registry holder name value).outcome := by
  rw [written_erase]
  rfl

theorem stored_erase : world.erase.stored registry holder name value.erase =
    (world.stored registry holder name value).erase := by
  rw [stored, written_erase, prepared, written_erase]
  exact (putStore_erase (world.prepared registry holder name value) holder _).symm

/-- **A write to an erased world** has the same outcome, -/
theorem answer_setAttribute_erase :
    (world.erase.setAttribute registry holder name value.erase).answer =
      (world.setAttribute registry holder name value).answer := by
  rw [setAttribute_answer, setAttribute_answer]
  exact outcome_written_erase ..

/-- and leaves the erased world. -/
theorem world_setAttribute_erase :
    (world.erase.setAttribute registry holder name value.erase).world =
      (world.setAttribute registry holder name value).world.erase := by
  have outcome := outcome_written_erase world holder registry name value
  by_cases changed : ∃ c, holder = .object (.cls c) ∧
      (world.written registry holder name value).outcome.changedShape = true
  · obtain ⟨c, rfl, changed⟩ := changed
    rw [world_setAttribute_of_changed changed,
      world_setAttribute_of_changed (by rw [outcome, changed]), stored_erase,
      renewAssumption_erase]
  · have kept (c : ClassId) (e : holder = .object (.cls c)) :
        (world.written registry holder name value).outcome.changedShape = false := by
      simpa using fun h => changed ⟨c, e, h⟩
    rw [world_setAttribute_of_kept kept, world_setAttribute_of_kept (outcome ▸ kept),
      stored_erase]

/-- **A change of superclass in an erased world** is refused or done as in the world itself. -/
theorem setSuperclass_erase (superclass : Option ClassId) :
    world.erase.setSuperclass c superclass =
      (world.setSuperclass c superclass).map Step.erase := by
  have names : world.erase.className = world.className := funext (className_erase world)
  have rewired : world.erase.putClass c { world.erase.classObject c with superclass } =
      (world.putClass c { world.classObject c with superclass }).erase := by
    rw [putClass_erase, classObject_erase]
    rfl
  unfold setSuperclass
  simp only [isSubclassOf_erase, names, rewired, renewAssumption_erase]
  split <;> rfl

end World

end InlineCache
