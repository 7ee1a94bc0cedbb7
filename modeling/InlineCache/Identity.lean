/-!
# Identities

Everything that is shared is named by an identity: its position in the order of creation. Values,
shapes and caches hold identities, never the things themselves, so two of them agree on what they
share exactly if they hold the same identity.

An identity is a natural number, and is never given again. Most identities stand for places in
memory. The numbers of classes and of tokens also show: they stand for words of 32 and of 64 bits,
counted from one, as long as fewer than 2^32 classes and fewer than 2^64 tokens are created.

## Main definitions

* `InstanceId`, `ClassId`, `ModuleId`, and their union `ObjectId`
* `StoreId`: a store that belongs to no object
* `Holder`: whatever has an attribute store
* `Assumption`: a token of validity
* `RegistryId`: a publisher of shapes
-/

namespace InlineCache

/-- The identity of an instance. -/
@[ext]
structure InstanceId where
  /-- Position in the order of creation. -/
  index : Nat
  deriving DecidableEq, Inhabited

/-- The identity of a class. -/
@[ext]
structure ClassId where
  /-- Position in the order of creation. -/
  index : Nat
  deriving DecidableEq, Inhabited

/-- The number a class shows: classes are counted from one. -/
def ClassId.number (c : ClassId) : Nat := c.index + 1

/-- The identity of a module. -/
@[ext]
structure ModuleId where
  /-- Position in the order of creation. -/
  index : Nat
  deriving DecidableEq, Inhabited

/-- The identity of an object with attribute storage: whatever an attribute can be read from. -/
inductive ObjectId where
  /-- An instance of a class. -/
  | inst (i : InstanceId)
  /-- A class, itself an object with attributes. -/
  | cls (c : ClassId)
  /-- A module, a flat namespace. -/
  | mod (m : ModuleId)
  deriving DecidableEq, Inhabited

/-- The identity of an attribute store that belongs to no object. -/
@[ext]
structure StoreId where
  /-- Position in the order of creation. -/
  index : Nat
  deriving DecidableEq, Inhabited

/-- Whatever has an attribute store: an object, or a store on its own. -/
inductive Holder where
  /-- An object holds its attributes. -/
  | object (o : ObjectId)
  /-- A store that belongs to no object. -/
  | detached (s : StoreId)
  deriving DecidableEq, Inhabited

/-- The identity of a token that is valid from its minting until its one invalidation. -/
@[ext]
structure Assumption where
  /-- Position in the order of minting. -/
  index : Nat
  deriving DecidableEq, Inhabited

/-- The number a token shows: tokens are counted from one. -/
def Assumption.number (a : Assumption) : Nat := a.index + 1

/-- The identity of a registry. -/
@[ext]
structure RegistryId where
  /-- Position in the order of creation. -/
  index : Nat
  deriving DecidableEq, Inhabited

end InlineCache
