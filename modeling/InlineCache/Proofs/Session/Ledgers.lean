import InlineCache.Proofs.Session.Growth
import InlineCache.Proofs.Store.Ledger
import Mathlib.Logic.Function.Basic

/-!
# Holders keep ledgers

Along a history, every holder gets a ledger: a write adds a line to the ledger of its holder, a copy
of a store begins with the ledger of the store that it was copied from, and nothing else touches
any ledger. Whatever registries and layouts the writes went through, and in whatever order they
came, every store reads as the ledger of its holder.

## Main definitions

* `Action.sparesStores`: the action neither creates a holder nor writes to one
* `Session.record`, `Session.recordAll`: the ledgers after an action, and after a history
* `ledgerOf`: the ledger of a holder after a history from nothing
* `Session.Keeps`: every store reads as the ledger of its holder

## Main results

* `Keeps.after`: every admitted action keeps the ledgers
* `stores_read_as_ledgers`: after every history every store reads as its ledger
-/

namespace InlineCache

namespace World

variable {world : World} {registry : RegistryId}

theorem Sound.names_emptyStore (sound : world.Sound) (hr : world.HasRegistry registry) :
    (world.emptyStore registry).shape.names = [] := by
  obtain ⟨-, serial, empty⟩ := sound.space.root registry hr
  rw [World.emptyStore, empty]
  rfl

theorem Sound.emptyStore_records (sound : world.Sound) (hr : world.HasRegistry registry) :
    (world.emptyStore registry).Records .empty :=
  (sound.emptyStore hr).1.records_empty (sound.names_emptyStore hr)

end World

/-- The action neither creates a holder nor writes to one. -/
def Action.sparesStores : Action → Bool
  | .newClass _ _ _ | .newInstance _ _ | .newModule _ _ | .newStore _ | .newStoreOn _
  | .copyStore _ | .setAttribute _ _ _ _ => false
  | _ => true

namespace Session

variable {session : Session} {ledgers : Holder → Ledger} {action : Action}

/-! ## Actions that spare the stores -/

/-- An action that neither creates a holder nor writes to one leaves the holders and their stores
as they are. -/
theorem stores_after_of_spared (spares : action.sparesStores = true)
    (admitted : session.Admits action) :
    (∀ holder, (session.after action).world.HasHolder holder ↔ session.world.HasHolder holder) ∧
      ∀ holder, (session.after action).world.store holder = session.world.store holder := by
  cases action with
  | newClass | newInstance | newModule | newStore | newStoreOn | copyStore | setAttribute =>
    cases spares
  | setSuperclass c superclass =>
    have hc : session.world.HasClass c := admitted.1
    rw [after, perform]
    split
    · next step changed =>
      have later := World.setSuperclass_eq_ok changed
      have hc' : (session.world.rewired c superclass).HasClass c :=
        (World.hasHolder_putClass _ _ _ (.object (.cls c))).2 hc
      refine ⟨fun holder => ?_, fun holder => ?_⟩
      · show step.world.HasHolder holder ↔ _
        rw [later, World.hasHolder_renewAssumption]
        exact World.hasHolder_putClass ..
      · show step.world.store holder = _
        rw [later, World.store_renewAssumption hc', World.store_rewired hc]
    · exact ⟨fun _ => .rfl, fun _ => rfl⟩
  | siteAt table place name =>
    rw [world_after_siteAt]
    exact ⟨fun _ => .rfl, fun _ => rfl⟩
  | load table place name value =>
    rw [world_after_load]
    exact ⟨fun _ => .rfl, fun _ => rfl⟩
  | invalidate | mint | newRegistry | publishRoot | withAttribute | widen | newSite | read
  | readInt | readFloat | readBool | newTable | clearTable =>
    refine ⟨fun holder => ?_, fun holder => ?_⟩ <;> rcases holder with (_ | _ | _) | _ <;> rfl

/-! ## Ledgers -/

/-- The ledgers after an action. -/
def record (session : Session) (ledgers : Holder → Ledger) : Action → Holder → Ledger
  | .setAttribute _ holder name value =>
    Function.update ledgers holder ((ledgers holder).add name value)
  | .copyStore store =>
    Function.update ledgers (.detached (session.world.copyStore store).1)
      (ledgers (.detached store))
  | _ => ledgers

/-- The ledgers after a history. -/
def recordAll (session : Session) (ledgers : Holder → Ledger) : List Action → Holder → Ledger
  | [] => ledgers
  | action :: rest => (session.after action).recordAll (session.record ledgers action) rest

/-- Every holder that was created reads as its ledger; the ledgers of the others are empty. -/
structure Keeps (session : Session) (ledgers : Holder → Ledger) : Prop where
  records : ∀ holder, session.world.HasHolder holder →
    (session.world.store holder).Records (ledgers holder)
  empty : ∀ holder, ¬ session.world.HasHolder holder → ledgers holder = .empty

/-- An action that leaves all stores alone. -/
theorem Keeps.of_store_eq (keeps : session.Keeps ledgers) {later : Session}
    (holders : ∀ holder, later.world.HasHolder holder ↔ session.world.HasHolder holder)
    (stores : ∀ holder, later.world.store holder = session.world.store holder) :
    later.Keeps ledgers where
  records holder h := by
    rw [stores]
    exact keeps.records holder ((holders holder).1 h)
  empty holder h := keeps.empty holder fun old => h ((holders holder).2 old)

/-- An action that adds a holder. -/
theorem Keeps.of_adds (keeps : session.Keeps ledgers) {later : Session} {fresh : Holder}
    {s : AttributeStore} (adds : session.world.Adds later.world fresh s) {ledger : Ledger}
    (records : s.Records ledger) : later.Keeps (Function.update ledgers fresh ledger) where
  records holder h := by
    rcases (adds.hasHolder_iff holder).1 h with old | rfl
    · have ne : holder ≠ fresh := by
        rintro rfl
        exact adds.not_hasHolder old
      rw [Function.update_of_ne ne, adds.store_old holder old]
      exact keeps.records holder old
    · rwa [Function.update_self, adds.store_fresh]
  empty holder h := by
    have ne : holder ≠ fresh := fun same => h ((adds.hasHolder_iff holder).2 (.inr same))
    rw [Function.update_of_ne ne]
    exact keeps.empty holder fun old => h ((adds.hasHolder_iff holder).2 (.inl old))

/-- An action that adds a holder with no attributes. -/
theorem Keeps.of_adds_empty (keeps : session.Keeps ledgers) {later : Session} {fresh : Holder}
    {s : AttributeStore} (adds : session.world.Adds later.world fresh s)
    (records : s.Records .empty) : later.Keeps ledgers := by
  have same : Function.update ledgers fresh .empty = ledgers :=
    Function.update_eq_self_iff.2 (keeps.empty fresh adds.not_hasHolder).symm
  exact same ▸ keeps.of_adds adds records

theorem Keeps.setAttribute (keeps : session.Keeps ledgers) (sound : session.world.Sound)
    {registry : RegistryId} {holder : Holder} (name : String) (value : Value)
    (hr : session.world.HasRegistry registry) (hh : session.world.HasHolder holder) :
    (session.after (.setAttribute registry holder name value)).Keeps
      (Function.update ledgers holder ((ledgers holder).add name value)) where
  records other h := by
    have old := (World.hasHolder_setAttribute other).1 h
    by_cases same : other = holder
    · subst same
      rw [Function.update_self]
      have stored : (session.after (.setAttribute registry other name value)).world.store other =
          (session.world.written registry other name value).store :=
        World.store_setAttribute_self hh
      exact stored ▸ (sound.written_assigns hr hh name value).records (keeps.records other hh)
    · rw [Function.update_of_ne same]
      have untouched :
          (session.after (.setAttribute registry holder name value)).world.store other =
            session.world.store other := World.store_setAttribute_of_ne hh same
      exact untouched ▸ keeps.records other old
  empty other h := by
    have none : ¬ session.world.HasHolder other :=
      fun old => h ((World.hasHolder_setAttribute other).2 old)
    have ne : other ≠ holder := by
      rintro rfl
      exact none hh
    rw [Function.update_of_ne ne]
    exact keeps.empty other none

/-- **Every admitted action keeps the ledgers.** -/
theorem Keeps.after (keeps : session.Keeps ledgers) (sound : session.world.Sound)
    (admitted : session.Admits action) :
    (session.after action).Keeps (session.record ledgers action) := by
  cases action with
  | setAttribute registry holder name value =>
    exact keeps.setAttribute sound name value admitted.1 admitted.2.1
  | copyStore store =>
    have copied := keeps.records (.detached store) admitted
    exact keeps.of_adds (World.pushStore_adds session.world _) copied
  | newClass registry name superclass =>
    exact keeps.of_adds_empty (World.newClass_adds ..) (sound.emptyStore_records admitted.1)
  | newInstance registry cls =>
    exact keeps.of_adds_empty (World.newInstance_adds ..) (sound.emptyStore_records admitted.1)
  | newModule registry name =>
    exact keeps.of_adds_empty (World.newModule_adds ..) (sound.emptyStore_records admitted)
  | newStore registry =>
    exact keeps.of_adds_empty (World.pushStore_adds session.world _)
      (sound.emptyStore_records admitted)
  | newStoreOn root =>
    obtain ⟨serial, rfl⟩ := sound.space.empty_of_id root admitted.1
      (by simpa [Shape.isEmpty] using admitted.2)
    exact keeps.of_adds_empty (World.pushStore_adds session.world _) ⟨rfl, fun _ => rfl⟩
  | _ =>
    obtain ⟨holders, stores⟩ := stores_after_of_spared rfl admitted
    exact keeps.of_store_eq holders stores

/-- After a history the stores read as the ledgers that the history left. -/
theorem Keeps.run (keeps : session.Keeps ledgers) (reached : session.Reachable)
    {history : List Action} (admitted : session.AdmitsAll history) :
    (session.run history).Keeps (session.recordAll ledgers history) := by
  induction history generalizing session ledgers with
  | nil => exact keeps
  | cons action rest ih =>
    exact ih (keeps.after reached.sound admitted.1) (reached.after admitted.1) admitted.2

theorem keeps_empty : empty.Keeps fun _ => .empty where
  records holder h := by
    rcases holder with (_ | _ | _) | _ <;> exact absurd h (Nat.not_lt_zero _)
  empty _ _ := rfl

/-- The ledger of a holder after a history from nothing. -/
def ledgerOf (history : List Action) (holder : Holder) : Ledger :=
  empty.recordAll (fun _ => .empty) history holder

/-- **Every store is an ordered dictionary.** After any history a holder reads, under every name,
the value last written to it under that name; it has the names that were written; it lists each of
them once, in the order in which they were first written, with the value last written; and a write
to any other holder leaves it as it is. -/
theorem stores_read_as_ledgers {history : List Action} (admitted : empty.AdmitsAll history)
    {holder : Holder} (created : (empty.run history).world.HasHolder holder) :
    let world := (empty.run history).world
    let store := world.store holder
    let ledger := ledgerOf history holder
    (∀ name, store.get name = ledger.value? name ∧
        (store.lookup name).map Prod.snd = ledger.value? name ∧
        (store.contains name = true ↔ name ∈ ledger.names)) ∧
      (store.entries = ledger.entries ∧ store.entries.map Prod.fst = ledger.names ∧
        ledger.names.Nodup ∧ store.size = ledger.names.length) ∧
      ∀ registry other name value, world.HasHolder other → holder ≠ other →
        (world.setAttribute registry other name value).world.store holder = store := by
  intro world store ledger
  have keeps := keeps_empty.run reachable_empty admitted
  have records : store.Records ledger := keeps.records holder created
  have fits : store.Fits := (reachable_empty.run admitted).sound.fits holder created
  refine ⟨fun name => ⟨records.get_eq name, ?_, records.contains_iff⟩, ?_, ?_⟩
  · rw [store.map_snd_lookup, records.get_eq]
  · have entries := records.entries_eq fits
    exact ⟨entries, entries ▸ ledger.names_entries, ledger.nodup_names, records.size_eq⟩
  · exact fun registry other name value hh ne => World.store_setAttribute_of_ne hh ne

/-- A store with two attributes, a copy of it, and a write that widens a slot of the first. -/
def copied : List Action :=
  [.newRegistry, .newStore ⟨0⟩, .setAttribute ⟨0⟩ (.detached ⟨0⟩) "x" (.int 1),
    .setAttribute ⟨0⟩ (.detached ⟨0⟩) "y" (.bool true), .copyStore ⟨0⟩,
    .setAttribute ⟨0⟩ (.detached ⟨0⟩) "x" (.str "one")]

/-- The copy reads as before the write, and the store that was copied as after it. -/
theorem stores_read_as_ledgers_of_copy :
    let world := (empty.run copied).world
    (world.store (.detached ⟨0⟩)).entries = [("x", .str "one"), ("y", .bool true)] ∧
      (world.store (.detached ⟨1⟩)).entries = [("x", .int 1), ("y", .bool true)] := by
  intro world
  have admitted : empty.AdmitsAll copied := by decide
  have first : world.HasHolder (.detached ⟨0⟩) := by decide
  have second : world.HasHolder (.detached ⟨1⟩) := by decide
  exact ⟨(stores_read_as_ledgers admitted first).2.1.1.trans (by decide),
    (stores_read_as_ledgers admitted second).2.1.1.trans (by decide)⟩

end Session

end InlineCache
