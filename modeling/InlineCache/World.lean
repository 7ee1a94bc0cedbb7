import InlineCache.Store

/-!
# The object world

The world holds every object with its attributes, the space of shapes that lays them out, and the
validity of every token. An instance points at its class, a class at its superclass, if it has one.
A class also holds the token that stands for "own layout and superclass are as they were": it is
renewed, the old token invalidated, whenever one of the two changes.

Objects are never deleted, so an identity stays good. Looking up an identity that was never handed
out gives an object with no attributes.

## Main definitions

* `ClassObject`, `InstanceObject`, `ModuleObject`, `World`: the objects and all of them together
* `World.newRegistry`, `World.newClass`, `World.newInstance`, `World.newModule`, `World.newStore`,
  `World.newStoreOn`, `World.copyStore`: creation
* `World.mint`, `World.holds`, `World.invalidate`: tokens
* `World.store`, `World.putStore`: the attributes of a holder
* `World.layout`: the shape of an object

## Main results

* `holds_mint`: a fresh token is valid
* `not_holds_invalidate`: an invalidated token is not
-/

namespace InlineCache

/-- A class. -/
structure ClassObject where
  /-- Its name. -/
  name : String
  /-- The class it inherits from. -/
  superclass : Option ClassId
  /-- The token for its current layout and superclass. -/
  assumption : Assumption
  /-- Its own attributes. -/
  attributes : AttributeStore
  deriving DecidableEq, Inhabited

/-- An instance of a class. -/
structure InstanceObject where
  /-- Its class. -/
  cls : ClassId
  /-- Its own attributes. -/
  attributes : AttributeStore
  deriving DecidableEq, Inhabited

/-- A module: a flat namespace. -/
structure ModuleObject where
  /-- Its name. -/
  name : String
  /-- Its attributes. -/
  attributes : AttributeStore
  deriving DecidableEq, Inhabited

/-- All objects, the shapes that lay them out, and the tokens. -/
structure World where
  /-- The published shapes. -/
  space : ShapeSpace
  /-- For every token, whether it is valid. -/
  assumptions : Array Bool
  /-- The classes. -/
  classes : Array ClassObject
  /-- The instances. -/
  instances : Array InstanceObject
  /-- The modules. -/
  modules : Array ModuleObject
  /-- The stores that belong to no object. -/
  stores : Array AttributeStore
  deriving DecidableEq, Inhabited

namespace World

/-- No objects. -/
def empty : World := ⟨.empty, #[], #[], #[], #[], #[]⟩

/-! ## Looking up -/

/-- The class of an identity. -/
def classObject (world : World) (c : ClassId) : ClassObject := world.classes.getD c.index default

/-- The instance of an identity. -/
def instanceObject (world : World) (i : InstanceId) : InstanceObject :=
  world.instances.getD i.index default

/-- The module of an identity. -/
def moduleObject (world : World) (m : ModuleId) : ModuleObject :=
  world.modules.getD m.index default

/-- The name of a class. -/
def className (world : World) (c : ClassId) : String := (world.classObject c).name

/-- The superclass of a class. -/
def superclass (world : World) (c : ClassId) : Option ClassId := (world.classObject c).superclass

/-- The token a class holds at present. -/
def currentAssumption (world : World) (c : ClassId) : Assumption :=
  (world.classObject c).assumption

/-- The class of an instance. -/
def classOf (world : World) (i : InstanceId) : ClassId := (world.instanceObject i).cls

/-- The attributes of an object. -/
def attributes (world : World) : ObjectId → AttributeStore
  | .inst i => (world.instanceObject i).attributes
  | .cls c => (world.classObject c).attributes
  | .mod m => (world.moduleObject m).attributes

/-- The attributes of a holder. -/
def store (world : World) : Holder → AttributeStore
  | .object o => world.attributes o
  | .detached s => world.stores.getD s.index default

/-- The current shape of an object. -/
def layout (world : World) (o : ObjectId) : Shape := (world.attributes o).shape

/-! ## Tokens -/

/-- The token is valid. -/
def holds (world : World) (a : Assumption) : Bool := world.assumptions.getD a.index false

/-- Mints a valid token. -/
def mint (world : World) : Assumption × World :=
  (⟨world.assumptions.size⟩, { world with assumptions := world.assumptions.push true })

/-- Invalidates a token, for good. The answer says whether it was valid until now. -/
def invalidate (world : World) (a : Assumption) : Bool × World :=
  (world.holds a,
    { world with assumptions := world.assumptions.setIfInBounds a.index false })

/-! ## Creation -/

/-- Opens a registry. -/
def newRegistry (world : World) : RegistryId × World :=
  let (registry, space) := world.space.newRegistry
  (registry, { world with space })

/-- A store with no attributes, laid out by the registry's empty shape. -/
def emptyStore (world : World) (registry : RegistryId) : AttributeStore :=
  .ofEmpty (world.space.root registry)

/-- Creates a class with no attributes and a fresh token. -/
def newClass (world : World) (registry : RegistryId) (name : String)
    (superclass : Option ClassId) : ClassId × World :=
  let (assumption, world) := world.mint
  let attributes := world.emptyStore registry
  (⟨world.classes.size⟩,
    { world with classes := world.classes.push { name, superclass, assumption, attributes } })

/-- Creates an instance with no attributes. -/
def newInstance (world : World) (registry : RegistryId) (cls : ClassId) : InstanceId × World :=
  let attributes := world.emptyStore registry
  (⟨world.instances.size⟩, { world with instances := world.instances.push { cls, attributes } })

/-- Creates a module with no attributes. -/
def newModule (world : World) (registry : RegistryId) (name : String) : ModuleId × World :=
  let attributes := world.emptyStore registry
  (⟨world.modules.size⟩, { world with modules := world.modules.push { name, attributes } })

/-- Creates a store with no attributes, laid out by an empty shape. -/
def newStoreOn (world : World) (root : Shape) : StoreId × World :=
  (⟨world.stores.size⟩, { world with stores := world.stores.push (.ofEmpty root) })

/-- Creates a store with no attributes, laid out by the registry's empty shape. -/
def newStore (world : World) (registry : RegistryId) : StoreId × World :=
  world.newStoreOn (world.space.root registry)

/-- Copies a store; the two go separate ways from here on. -/
def copyStore (world : World) (s : StoreId) : StoreId × World :=
  (⟨world.stores.size⟩, { world with stores := world.stores.push (world.store (.detached s)) })

/-! ## Updating -/

/-- Replaces a class. -/
def putClass (world : World) (c : ClassId) (object : ClassObject) : World :=
  { world with classes := world.classes.setIfInBounds c.index object }

/-- Replaces the attributes of a holder. -/
def putStore (world : World) (holder : Holder) (store : AttributeStore) : World :=
  match holder with
  | .object (.inst i) =>
    { world with
      instances := world.instances.modify i.index fun o => { o with attributes := store } }
  | .object (.cls c) =>
    { world with
      classes := world.classes.modify c.index fun o => { o with attributes := store } }
  | .object (.mod m) =>
    { world with
      modules := world.modules.modify m.index fun o => { o with attributes := store } }
  | .detached s => { world with stores := world.stores.setIfInBounds s.index store }

/-! ## Laws -/

/-- A fresh token is valid. -/
theorem holds_mint (world : World) : world.mint.2.holds world.mint.1 = true := by
  simp [mint, holds]

/-- Minting leaves every other token as it is. -/
theorem holds_mint_of_lt {world : World} {a : Assumption} (h : a.index < world.assumptions.size) :
    world.mint.2.holds a = world.holds a := by
  simp [mint, holds, Array.getElem?_push, Nat.ne_of_lt h]

/-- An invalidated token is not valid. -/
theorem not_holds_invalidate (world : World) (a : Assumption) :
    (world.invalidate a).2.holds a = false := by
  by_cases h : a.index < world.assumptions.size <;>
    simp [invalidate, holds, h]

/-- Invalidating a token leaves every other one as it is. -/
theorem holds_invalidate_of_ne {world : World} {a b : Assumption} (h : b ≠ a) :
    (world.invalidate a).2.holds b = world.holds b := by
  have hi : a.index ≠ b.index := fun e => h (by cases a; cases b; simp_all)
  simp [invalidate, holds, hi]

end World

end InlineCache
