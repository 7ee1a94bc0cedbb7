import InlineCache.Proofs.World.Erasure
import InlineCache.Site

/-!
# Erased worlds are resolved, guarded and read alike

Resolving a name in an erased world finds the attribute in the same place, with its value erased. A
guard decides as it did, and a call site drops, adds and counts what it did. So what a site keeps
depends on no value that is stored anywhere.

## Main definitions

* `Resolution.erase`, `Probe.erase`, `Site.Walk.erase`, `Read.erase`: what is found, with the value
  erased

## Main results

* `World.resolve_erase`, `Guard.check_erase`, `Guard.probe_erase`: resolving and guarding
* `Site.read_erase`: a read in an erased world
-/

namespace InlineCache

/-! ## Resolution -/

/-- The resolution with its value erased. -/
def Resolution.erase (resolution : Resolution) : Resolution :=
  { resolution with value := resolution.value.erase }

/-- What a search found, with the value erased. -/
def Found.erase (found : Found) : Found := { found with value := found.value.erase }

namespace World

variable (world : World) (limit : Nat) (receiver : ObjectId) (name : String)

theorem lookupOwn_erase : world.erase.lookupOwn receiver name =
    (world.lookupOwn receiver name).map fun found => (found.1, found.2.erase) := by
  rw [lookupOwn, attributes_erase, AttributeStore.lookup_erase, lookupOwn]

@[simp] theorem hop_erase (c : ClassId) : world.erase.hop c = world.hop c := by
  rw [hop, currentAssumption_erase, hop]

theorem walk_erase (budget : Nat) (classes : List ClassId) :
    world.erase.walk name budget classes = (world.walk name budget classes).map Found.erase := by
  -- a class has the attribute or not, whatever its value is
  induction classes generalizing budget with
  | nil => cases budget <;> rfl
  | cons c rest ih =>
    cases budget with
    | zero => rfl
    | succ budget =>
      rw [walk, walk, lookupOwn_erase, hop_erase, ih]
      cases world.lookupOwn (.cls c) name with
      | some found => rfl
      | none => cases world.walk name budget rest <;> rfl

theorem resolveInherited_erase (check : ReceiverCheck) (first : Option ClassId) :
    world.erase.resolveInherited limit receiver name check first =
      (world.resolveInherited limit receiver name check first).map Resolution.erase := by
  rw [resolveInherited, lineage_erase, walk_erase, describe_erase, resolveInherited]
  cases world.walk name limit (world.lineage first) with
  | ok found => rfl
  | error absence => cases absence <;> rfl

/-- **Resolving in an erased world** finds the same place, or fails for the same reason. -/
theorem resolve_erase : world.erase.resolve limit receiver name =
    (world.resolve limit receiver name).map Resolution.erase := by
  unfold resolve
  rw [lookupOwn_erase, layout_erase]
  cases world.lookupOwn receiver name with
  | some found => rfl
  | none =>
    cases receiver with
    | inst i =>
      simp only [Option.map_none, classOf_erase]
      exact resolveInherited_erase ..
    | cls c =>
      simp only [Option.map_none, currentAssumption_erase, superclass_erase]
      exact resolveInherited_erase ..
    | mod m => simp only [Option.map_none, describe_erase, Except.map]

theorem typeName_erase (value : Value) : world.erase.typeName value = world.typeName value := by
  cases value with
  | object o => exact describe_erase world o
  | _ => rfl

theorem resolveValue_erase (value : Value) : world.erase.resolveValue limit value name =
    (world.resolveValue limit value name).map Resolution.erase := by
  unfold resolveValue
  cases value.object? with
  | some receiver => exact resolve_erase ..
  | none => simp only [typeName_erase, Except.map]

theorem lookup_erase : world.erase.lookup limit receiver name =
    (world.lookup limit receiver name).map Value.erase := by
  rw [lookup, resolve_erase, lookup]
  cases world.resolve limit receiver name <;> rfl

end World

/-! ## Guards -/

/-- What a guarded fetch finds, with the value erased. -/
def Probe.erase : Probe → Probe
  | hit value => hit value.erase
  | miss => miss
  | stale => stale

theorem ReceiverCheck.check_erase (world : World) (receiver : ObjectId) (captured : ReceiverCheck) :
    captured.check world.erase receiver = captured.check world receiver := by
  unfold check
  cases receiver with
  | inst i =>
    cases captured.stable with
    | layout shape => simp only [World.classOf_erase, World.layout_erase]
    | token a => rfl
  | cls c =>
    cases captured.stable with
    | layout shape => rfl
    | token a => rfl
  | mod m => rfl

theorem World.hopsHold_erase (world : World) (hops : List Hop) :
    world.erase.hopsHold hops = world.hopsHold hops := by
  induction hops with
  | nil => rfl
  | cons hop rest ih =>
    cases rest with
    | nil => rfl
    | cons next rest =>
      simp only [hopsHold, hasSuperclass, holds_erase, superclass_erase, ih]

namespace Guard

variable (world : World) (receiver : ObjectId) (location : Location) (guard : Guard)

/-- **A guard decides alike** in an erased world. -/
theorem check_erase : guard.check world.erase receiver = guard.check world receiver := by
  cases guard with
  | layout shape => rw [check, World.layout_erase, check]
  | cls captured definer => rw [check, ReceiverCheck.check_erase, World.holds_erase, check]
  | chain captured hops depth =>
    have starts :
        world.erase.startsAt captured.owner hops = world.startsAt captured.owner hops := by
      cases hops with
      | nil => rfl
      | cons hop rest => simp only [World.startsAt, World.hasSuperclass, World.superclass_erase]
    rw [check, checkChain, ReceiverCheck.check_erase, World.hopsHold_erase, starts, check,
      checkChain]

theorem fetchFrom_erase (definer : Hop) :
    fetchFrom world.erase definer location = (fetchFrom world definer location).erase := by
  unfold fetchFrom World.fetchIfStable
  rw [World.currentAssumption_erase, World.holds_erase, World.attributes_erase,
    AttributeStore.fetch_erase]
  split
  · cases (world.attributes (.cls definer.cls)).fetch location <;> rfl
  · rfl

/-- A guarded fetch finds the erased value. -/
theorem probe_erase : guard.probe world.erase receiver location =
    (guard.probe world receiver location).map Probe.erase := by
  have checked := check_erase world receiver guard
  cases guard with
  | layout shape =>
    rw [probe, World.fetchIfShape, World.attributes_erase, AttributeStore.fetchIfShape_erase, probe,
      World.fetchIfShape]
    cases (world.attributes receiver).fetchIfShape shape location <;> rfl
  | cls captured definer =>
    simp only [probe, checked]
    cases (cls captured definer).check world receiver with
    | error error => rfl
    | ok outcome =>
      cases outcome with
      | pass => exact congrArg Except.ok (fetchFrom_erase ..)
      | miss => rfl
      | stale => rfl
  | chain captured hops depth =>
    simp only [probe, checked]
    cases (chain captured hops depth).check world receiver with
    | error error => rfl
    | ok outcome =>
      cases outcome with
      | pass =>
        cases hops.getLast? with
        | none => rfl
        | some definer => exact congrArg Except.ok (fetchFrom_erase ..)
      | miss => rfl
      | stale => rfl

end Guard

/-! ## Sites -/

/-- The end of a walk, with the value erased. -/
def Site.Ending.erase : Site.Ending → Site.Ending
  | .hit value => .hit value.erase
  | .failed error => .failed error
  | .fellOff position => .fellOff position

/-- The walk with the value at its end erased. -/
def Site.Walk.erase (walk : Site.Walk) : Site.Walk := { walk with ending := walk.ending.erase }

/-- The read with the value of its answer erased. -/
def Read.erase (read : Read Value) : Read Value :=
  { read with answer := read.answer.map Value.erase }

namespace Site

variable (world : World) (receiver : ObjectId) (position : Nat) (site : Site)

/-- A walk in an erased world misses, drops and keeps the same nodes. -/
theorem walk_erase (nodes : List CachedNode) :
    walk world.erase receiver position nodes = (walk world receiver position nodes).erase := by
  induction nodes generalizing position with
  | nil => rfl
  | cons node rest ih =>
    rw [walk, Guard.probe_erase, ih, ih, walk]
    cases node.guard.probe world receiver node.location with
    | error error => rfl
    | ok probe => cases probe <;> rfl

theorem readGeneric_erase :
    site.readGeneric world.erase receiver = (site.readGeneric world receiver).erase := by
  rw [readGeneric, World.lookup_erase, readGeneric]
  rfl

theorem specialize_erase : site.specialize world.erase receiver position =
    (site.specialize world receiver position).erase := by
  unfold specialize
  rw [World.resolve_erase]
  cases world.resolve site.limits.hierarchy receiver site.name with
  | error error => rfl
  | ok resolution =>
    have same : Guard.ofResolution resolution.erase = Guard.ofResolution resolution := rfl
    simp only [Except.map, same]
    cases Guard.ofResolution resolution <;> rfl

theorem readTerminal_erase : site.readTerminal world.erase receiver position =
    (site.readTerminal world receiver position).erase := by
  unfold readTerminal
  cases site.terminal with
  | generic => exact readGeneric_erase ..
  | uninitialized =>
    dsimp only
    split
    · simp only [generalize, readGeneric_erase]
      rfl
    · exact specialize_erase ..

theorem readObject_erase :
    site.readObject world.erase receiver = (site.readObject world receiver).erase := by
  unfold readObject
  simp only [walk_erase]
  cases ended : (walk world receiver 0 site.nodes).ending with
  | hit value => simp only [Walk.erase, ended, Ending.erase, Read.erase, Except.map]
  | failed error => simp only [Walk.erase, ended, Ending.erase, Read.erase, Except.map]
  | fellOff position =>
    simp only [Walk.erase, ended, Ending.erase, readTerminal_erase]
    rfl

/-- **A read in an erased world** answers with the erased value, or fails for the same reason. It
reports the same and leaves the same site. -/
theorem read_erase (value : Value) :
    site.read world.erase value = (site.read world value).erase := by
  unfold read
  cases value.object? with
  | some receiver => exact readObject_erase ..
  | none => simp only [World.typeName_erase, Read.erase, Except.map]

end Site

end InlineCache
