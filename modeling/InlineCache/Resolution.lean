import InlineCache.Error
import InlineCache.World.Describe
import InlineCache.World.Hierarchy

/-!
# Resolution

Resolving a name on a receiver says where the attribute lives: on the receiver itself, or on the
nearest class that defines it. For an instance the search goes on at its class, for a class at its
superclass; a module inherits nothing. The answer also records what it hangs on, so that a guard
can tell later whether it still stands: the layout of the receiver if the attribute is its own, and
otherwise who the receiver was and every class on the way, with the token that each held.

## Main definitions

* `Hop`, `ReceiverCheck`, `Placement`, `Resolution`: the answer and what it hangs on
* `World.walk`: the search along a list of classes
* `World.resolve`, `World.resolveValue`: resolution on an object and on any value
* `World.lookup`: the value alone

## Main results

* `walk_hops`: a search visits the first classes of the list, in order
* `resolve_own`: an own attribute is found on the receiver
-/

namespace InlineCache

/-- A class on the way to the attribute, with the token it held. -/
structure Hop where
  /-- The class. -/
  cls : ClassId
  /-- Its token when it was visited. -/
  assumption : Assumption
  deriving DecidableEq, Inhabited

/-- What keeps a receiver from getting the attribute itself. -/
inductive Stability where
  /-- An instance keeps the layout in which the attribute is absent. -/
  | layout (shape : Shape)
  /-- A class keeps its token. -/
  | token (a : Assumption)
  deriving DecidableEq

/-- Who the receiver of an inherited attribute was. -/
structure ReceiverCheck where
  /-- The class of the instance, or the class itself. -/
  owner : ClassId
  /-- What it has to keep. -/
  stable : Stability
  deriving DecidableEq

/-- Where the attribute was found. -/
inductive Placement where
  /-- On the receiver, which had this layout. -/
  | own (layout : Shape)
  /-- On the last of the classes that were visited. -/
  | inherited (receiver : ReceiverCheck) (hops : List Hop)
  deriving DecidableEq

/-- The answer for one receiver and one name. -/
structure Resolution where
  /-- The number of classes visited: zero for an own attribute. -/
  depth : Nat
  /-- The slot in the defining object. -/
  location : Location
  /-- The value in the slot. -/
  value : Value
  /-- Where the attribute was found. -/
  placement : Placement
  deriving DecidableEq

/-- The class that defines the attribute, or none if the receiver has it itself. -/
def Resolution.definingClass (resolution : Resolution) : Option ClassId :=
  match resolution.placement with
  | .own _ => none
  | .inherited _ hops => hops.getLast?.map Hop.cls

/-- What a search along classes finds. -/
structure Found where
  /-- The classes visited, the defining one last. -/
  hops : List Hop
  /-- The slot in the defining class. -/
  location : Location
  /-- The value in the slot. -/
  value : Value
  deriving DecidableEq

/-- Why a search along classes finds nothing. -/
inductive Absence where
  /-- No class of the list defines the name. -/
  | exhausted
  /-- The budget was spent before the list ended. -/
  | tooDeep
  deriving DecidableEq

namespace World

/-- The attribute that an object has itself. -/
def lookupOwn (world : World) (o : ObjectId) (name : String) : Option (Location × Value) :=
  (world.attributes o).lookup name

/-- A class with its present token. -/
def hop (world : World) (c : ClassId) : Hop := ⟨c, world.currentAssumption c⟩

/-- Searches a list of classes for the first one that defines the name. Each class visited costs
one of the budget. -/
def walk (world : World) (name : String) : Nat → List ClassId → Except Absence Found
  | _, [] => .error .exhausted
  | 0, _ :: _ => .error .tooDeep
  | budget + 1, c :: rest =>
    match world.lookupOwn (.cls c) name with
    | some (location, value) => .ok ⟨[world.hop c], location, value⟩
    | none =>
      match world.walk name budget rest with
      | .ok found => .ok { found with hops := world.hop c :: found.hops }
      | .error absence => .error absence

/-- Resolves a name on the chain of superclasses that starts at `first`. -/
def resolveInherited (world : World) (limit : Nat) (receiver : ObjectId) (name : String)
    (check : ReceiverCheck) (first : Option ClassId) : Except ReadError Resolution :=
  match world.walk name limit (world.lineage first) with
  | .ok found =>
    .ok ⟨found.hops.length, found.location, found.value, .inherited check found.hops⟩
  | .error .tooDeep => .error (.invalidState (.hierarchyTooDeep limit name))
  | .error .exhausted => .error (.noAttribute name (world.describe receiver))

/-- Resolves a name on an object, walking no more than `limit` classes. -/
def resolve (world : World) (limit : Nat) (receiver : ObjectId) (name : String) :
    Except ReadError Resolution :=
  match world.lookupOwn receiver name with
  | some (location, value) => .ok ⟨0, location, value, .own (world.layout receiver)⟩
  | none =>
    match receiver with
    | .inst i =>
      world.resolveInherited limit receiver name
        ⟨world.classOf i, .layout (world.layout receiver)⟩ (some (world.classOf i))
    | .cls c =>
      world.resolveInherited limit receiver name
        ⟨c, .token (world.currentAssumption c)⟩ (world.superclass c)
    | .mod _ => .error (.noAttribute name (world.describe receiver))

/-- Resolves a name on any value. A value that is no object has no attributes. -/
def resolveValue (world : World) (limit : Nat) (value : Value) (name : String) :
    Except ReadError Resolution :=
  match value.object? with
  | some receiver => world.resolve limit receiver name
  | none => .error (.noAttribute name (world.typeName value))

/-- The value of an attribute, by name. -/
def lookup (world : World) (limit : Nat) (receiver : ObjectId) (name : String) :
    Except ReadError Value :=
  (world.resolve limit receiver name).map Resolution.value

/-! ## Laws -/

/-- An attribute of the receiver itself is found there. -/
theorem resolve_own {world : World} {receiver : ObjectId} {name : String} {location : Location}
    {value : Value} (h : world.lookupOwn receiver name = some (location, value)) (limit : Nat) :
    world.resolve limit receiver name =
      .ok ⟨0, location, value, .own (world.layout receiver)⟩ := by
  simp [resolve, h]

/-- **A search visits the first classes of the list**, in order, each with its present token. -/
theorem walk_hops {world : World} {name : String} {budget : Nat} {classes : List ClassId}
    {found : Found} (h : world.walk name budget classes = .ok found) :
    found.hops = (classes.take found.hops.length).map world.hop ∧ 0 < found.hops.length ∧
      found.hops.length ≤ budget := by
  induction classes generalizing budget found with
  | nil => simp [walk] at h
  | cons c rest ih =>
    cases budget with
    | zero => simp [walk] at h
    | succ budget =>
      rw [walk] at h
      split at h
      · cases h
        simp
      · split at h
        · next found' hf =>
          cases h
          obtain ⟨h₁, -, h₃⟩ := ih hf
          exact ⟨by simpa using h₁, by simp, by simpa using h₃⟩
        · simp at h

end World

end InlineCache
