import InlineCache.Proofs.Session.Layouts
import InlineCache.Proofs.Session.Ledgers
import InlineCache.Proofs.Store.Kinds

/-!
# Layouts converge

A holder settles in a registry if it starts empty there and is written through that registry only; a
copy of a settled store is settled as well. The shape of a settled holder is laid out from the empty
shape of its registry as its ledger asks. So two holders that settled in one registry have one
shape if and only if their ledgers agree on the order of the names and on their effective kinds,
however the layouts came about: one may have been widened late, and the other one boxed from the
start.

## Main definitions

* `Session.settle`, `settledIn`: which holders are settled in a registry after an action, and after
  a history
* `Session.Lays`: every holder is laid out as its ledger asks

## Main results

* `Lays.after`: every admitted action keeps the layouts
* `layouts_converge`: identity of shapes is agreement of the ledgers
-/

namespace InlineCache

namespace Session

variable {session : Session} {registry : RegistryId} {settled : Holder → Bool}
  {ledgers : Holder → Ledger} {action : Action}

/-! ## Settling -/

/-- The shape is the empty shape of the registry. -/
def isRootOf (session : Session) (registry : RegistryId) (shape : Shape) : Bool :=
  session.world.HasRegistry registry ∧ shape = session.world.space.root registry

/-- The holders that are settled in the registry after an action. -/
def settle (registry : RegistryId) (session : Session) (settled : Holder → Bool) :
    Action → Holder → Bool
  | .newClass through name superclass =>
    Function.update settled (.object (.cls (session.world.newClass through name superclass).1))
      (through == registry)
  | .newInstance through cls =>
    Function.update settled (.object (.inst (session.world.newInstance through cls).1))
      (through == registry)
  | .newModule through name =>
    Function.update settled (.object (.mod (session.world.newModule through name).1))
      (through == registry)
  | .newStore through =>
    Function.update settled (.detached (session.world.newStore through).1) (through == registry)
  | .newStoreOn root =>
    Function.update settled (.detached (session.world.newStoreOn root).1)
      (session.isRootOf registry root)
  | .copyStore store =>
    Function.update settled (.detached (session.world.copyStore store).1)
      (settled (.detached store))
  | .setAttribute through holder _ _ =>
    Function.update settled holder (settled holder && through == registry)
  | _ => settled

/-- The holders that are settled in the registry after a history. -/
def settleAll (registry : RegistryId) (session : Session) (settled : Holder → Bool) :
    List Action → Holder → Bool
  | [] => settled
  | action :: rest =>
    (session.after action).settleAll registry (session.settle registry settled action) rest

/-- The holder started empty in the registry, or as a copy of one that did, and whatever was written
to it was written through the registry. -/
def settledIn (registry : RegistryId) (history : List Action) (holder : Holder) : Bool :=
  empty.settleAll registry (fun _ => false) history holder

/-! ## Laid out as the ledgers ask -/

/-- Every holder is laid out as its ledger asks, and from the empty shape of the registry if it is
settled there. -/
structure Lays (session : Session) (registry : RegistryId) (settled : Holder → Bool)
    (ledgers : Holder → Ledger) : Prop where
  signature : ∀ holder, session.world.HasHolder holder →
    (session.world.store holder).shape.signature = (ledgers holder).signature
  created : ∀ holder, settled holder = true →
    session.world.HasHolder holder ∧ session.world.HasRegistry registry
  origin : ∀ holder, settled holder = true →
    (session.world.store holder).shape.origin = session.world.space.root registry

/-- A registry keeps its empty shape. -/
theorem root_after (sound : session.world.Sound) (admitted : session.Admits action)
    (hr : session.world.HasRegistry registry) :
    (session.after action).world.HasRegistry registry ∧
      (session.after action).world.space.root registry = session.world.space.root registry :=
  (evolves_after sound admitted).root_eq hr

section Step

variable (lays : session.Lays registry settled ledgers) (sound : session.world.Sound)
  (admitted : session.Admits action)

include lays sound admitted

/-- An action that leaves all stores alone. -/
theorem Lays.of_spared (spares : action.sparesStores = true) :
    (session.after action).Lays registry settled ledgers := by
  obtain ⟨holders, stores⟩ := stores_after_of_spared spares admitted
  refine ⟨fun holder h => ?_, fun holder h => ?_, fun holder h => ?_⟩
  · rw [stores]
    exact lays.signature holder ((holders holder).1 h)
  · obtain ⟨there, hr⟩ := lays.created holder h
    exact ⟨(holders holder).2 there, (root_after sound admitted hr).1⟩
  · obtain ⟨-, hr⟩ := lays.created holder h
    rw [stores, (root_after sound admitted hr).2]
    exact lays.origin holder h

/-- An action that adds a holder. -/
theorem Lays.of_adds {fresh : Holder} {s : AttributeStore}
    (adds : session.world.Adds (session.after action).world fresh s) {ledger : Ledger}
    {starts : Bool} (signature : s.shape.signature = ledger.signature)
    (origin : starts = true → session.world.HasRegistry registry ∧
      s.shape.origin = session.world.space.root registry) :
    (session.after action).Lays registry (Function.update settled fresh starts)
      (Function.update ledgers fresh ledger) := by
  have old {holder : Holder} (h : session.world.HasHolder holder) : holder ≠ fresh := by
    rintro rfl
    exact adds.not_hasHolder h
  refine ⟨fun holder h => ?_, fun holder h => ?_, fun holder h => ?_⟩
  · rcases (adds.hasHolder_iff holder).1 h with there | rfl
    · rw [Function.update_of_ne (old there), adds.store_old holder there]
      exact lays.signature holder there
    · rwa [Function.update_self, adds.store_fresh]
  · by_cases new : holder = fresh
    · rw [new, Function.update_self] at h
      exact ⟨(adds.hasHolder_iff holder).2 (.inr new),
        (root_after sound admitted (origin h).1).1⟩
    · rw [Function.update_of_ne new] at h
      obtain ⟨there, hr⟩ := lays.created holder h
      exact ⟨(adds.hasHolder_iff holder).2 (.inl there), (root_after sound admitted hr).1⟩
  · by_cases new : holder = fresh
    · rw [new, Function.update_self] at h
      obtain ⟨hr, from_root⟩ := origin h
      rw [new, adds.store_fresh, (root_after sound admitted hr).2, from_root]
    · rw [Function.update_of_ne new] at h
      obtain ⟨there, hr⟩ := lays.created holder h
      rw [adds.store_old holder there, (root_after sound admitted hr).2]
      exact lays.origin holder h

/-- An action that adds a holder with no attributes. -/
theorem Lays.of_adds_empty (keeps : session.Keeps ledgers) {fresh : Holder} {s : AttributeStore}
    (adds : session.world.Adds (session.after action).world fresh s)
    {starts : Bool} (empty : s.shape.signature = [])
    (root : starts = true → session.world.HasRegistry registry ∧
      s.shape = session.world.space.root registry) :
    (session.after action).Lays registry (Function.update settled fresh starts) ledgers := by
  have same : Function.update ledgers fresh .empty = ledgers :=
    Function.update_eq_self_iff.2 (keeps.empty fresh adds.not_hasHolder).symm
  rw [← same]
  refine lays.of_adds sound admitted adds empty fun starts => ?_
  obtain ⟨hr, own⟩ := root starts
  exact ⟨hr, own ▸ Shape.origin_eq_of_signature_eq_nil empty⟩

end Step

theorem Lays.setAttribute (lays : session.Lays registry settled ledgers)
    (sound : session.world.Sound) {through : RegistryId} {holder : Holder} {name : String}
    {value : Value} (admitted : session.Admits (.setAttribute through holder name value)) :
    (session.after (.setAttribute through holder name value)).Lays registry
      (session.settle registry settled (.setAttribute through holder name value))
      (session.record ledgers (.setAttribute through holder name value)) := by
  have opened := admitted.1
  have hh := admitted.2.1
  have published := sound.published holder hh
  have old (other : Holder) :
      (session.after (.setAttribute through holder name value)).world.HasHolder other ↔
        session.world.HasHolder other := World.hasHolder_setAttribute other
  have stored : (session.after (.setAttribute through holder name value)).world.store holder =
      (session.world.written through holder name value).store := World.store_setAttribute_self hh
  have untouched (other : Holder) (ne : other ≠ holder) :
      (session.after (.setAttribute through holder name value)).world.store other =
        session.world.store other := World.store_setAttribute_of_ne hh ne
  -- whoever is settled afterwards was settled before
  have before {other : Holder} (h : session.settle registry settled
      (.setAttribute through holder name value) other = true) : settled other = true := by
    rw [settle, Function.update_apply] at h
    split at h
    · next same => exact same ▸ (Bool.and_eq_true_iff.1 h).1
    · exact h
  refine ⟨fun other h => ?_, fun other h => ?_, fun other h => ?_⟩
  · rw [record]
    by_cases same : other = holder
    · rw [same, Function.update_self, stored]
      exact AttributeStore.signature_set sound.space opened published
        (lays.signature holder hh) name value
    · rw [Function.update_of_ne same, untouched other same]
      exact lays.signature other ((old other).1 h)
  · obtain ⟨there, hr⟩ := lays.created other (before h)
    exact ⟨(old other).2 there, (root_after sound admitted hr).1⟩
  · obtain ⟨-, hr⟩ := lays.created other (before h)
    have own := lays.origin other (before h)
    rw [(root_after sound admitted hr).2]
    by_cases same : other = holder
    · subst same
      rw [settle, Function.update_self, Bool.and_eq_true, beq_iff_eq] at h
      obtain ⟨-, rfl⟩ := h
      rw [stored]
      exact (AttributeStore.origin_set sound.space opened published own name value).trans own
    · rw [untouched other same]
      exact own

/-- **Every admitted action keeps the layouts.** -/
theorem Lays.after (lays : session.Lays registry settled ledgers) (keeps : session.Keeps ledgers)
    (sound : session.world.Sound) (admitted : session.Admits action) :
    (session.after action).Lays registry (session.settle registry settled action)
      (session.record ledgers action) := by
  have started {through : RegistryId} (hr : session.world.HasRegistry through) :
      (session.world.emptyStore through).shape.signature = [] ∧
        ((through == registry) = true → session.world.HasRegistry registry ∧
          (session.world.emptyStore through).shape = session.world.space.root registry) := by
    obtain ⟨-, serial, root⟩ := sound.space.root through hr
    refine ⟨?_, fun same => ?_⟩
    · rw [World.emptyStore, root]
      rfl
    · rw [beq_iff_eq] at same
      exact same ▸ ⟨hr, rfl⟩
  cases action with
  | setAttribute through holder name value => exact lays.setAttribute sound admitted
  | copyStore store =>
    exact lays.of_adds sound admitted (World.pushStore_adds session.world _)
      (lays.signature (.detached store) admitted)
      fun h => ⟨(lays.created _ h).2, lays.origin _ h⟩
  | newClass through name superclass =>
    obtain ⟨empty, root⟩ := started admitted.1
    exact lays.of_adds_empty sound admitted keeps (World.newClass_adds ..) empty root
  | newInstance through cls =>
    obtain ⟨empty, root⟩ := started admitted.1
    exact lays.of_adds_empty sound admitted keeps (World.newInstance_adds ..) empty root
  | newModule through name =>
    obtain ⟨empty, root⟩ := started admitted
    exact lays.of_adds_empty sound admitted keeps (World.newModule_adds ..) empty root
  | newStore through =>
    obtain ⟨empty, root⟩ := started admitted
    exact lays.of_adds_empty sound admitted keeps (World.pushStore_adds session.world _) empty root
  | newStoreOn root =>
    obtain ⟨serial, empty⟩ := sound.space.empty_of_id root admitted.1
      (by simpa [Shape.isEmpty] using admitted.2)
    have nothing : (AttributeStore.ofEmpty root).shape.signature = [] := by
      rw [empty]
      rfl
    exact lays.of_adds_empty sound admitted keeps (World.pushStore_adds session.world _) nothing
      of_decide_eq_true
  | _ => exact lays.of_spared sound admitted rfl

/-- After a history the holders are laid out as the ledgers that it left ask. -/
theorem Lays.run (lays : session.Lays registry settled ledgers) (keeps : session.Keeps ledgers)
    (reached : session.Reachable) {history : List Action}
    (admitted : session.AdmitsAll history) :
    (session.run history).Lays registry (session.settleAll registry settled history)
      (session.recordAll ledgers history) := by
  induction history generalizing session settled ledgers with
  | nil => exact lays
  | cons action rest ih =>
    have sound := reached.sound
    exact ih (lays.after keeps sound admitted.1) (keeps.after sound admitted.1)
      (reached.after admitted.1) admitted.2

theorem lays_empty (registry : RegistryId) :
    empty.Lays registry (fun _ => false) fun _ => .empty where
  signature holder h := by
    rcases holder with (_ | _ | _) | _ <;> exact absurd h (Nat.not_lt_zero _)
  created _ h := nomatch h
  origin _ h := nomatch h

/-! ## Convergence -/

/-- **Layouts converge.** Two holders that settled in one registry have one shape if and only if
their names were first written in the same order and have the same effective kinds, whatever else
happened in between. So the order of the writes after the first ones makes no difference. -/
theorem layouts_converge {history : List Action} (admitted : empty.AdmitsAll history)
    {registry : RegistryId} {a b : Holder} (ha : settledIn registry history a = true)
    (hb : settledIn registry history b = true) :
    let world := (empty.run history).world
    let first := ledgerOf history a
    let second := ledgerOf history b
    ((world.store a).shape.same (world.store b).shape = true ↔
      first.names = second.names ∧
        ∀ name, first.effectiveKind name = second.effectiveKind name) ∧
    (first.names = second.names → first.lines.Perm second.lines →
      (world.store a).shape.same (world.store b).shape = true) := by
  intro world first second
  have reached : (empty.run history).Reachable := reachable_empty.run admitted
  have lays := (lays_empty registry).run keeps_empty reachable_empty admitted
  obtain ⟨there, -⟩ := lays.created a ha
  obtain ⟨there', -⟩ := lays.created b hb
  have converge : (world.store a).shape.same (world.store b).shape = true ↔
      first.names = second.names ∧
        ∀ name, first.effectiveKind name = second.effectiveKind name := by
    rw [reached.same_iff (reached.sound.published a there) (reached.sound.published b there'),
      ← Ledger.signature_eq_iff]
    rw [show (world.store a).shape.signature = first.signature from lays.signature a there,
      show (world.store b).shape.signature = second.signature from lays.signature b there']
    exact and_iff_right ((lays.origin a ha).trans (lays.origin b hb).symm)
  refine ⟨converge, fun names perm => converge.2 ⟨names, ?_⟩⟩
  exact Ledger.effectiveKind_eq_of_perm perm

/-- An instance and a detached store get the same attributes. The one starts with integers and is
widened twice, late; the other one starts boxed under one name and is widened under the other. A
module ends up with the same names, and with an integer under one of them. -/
def converged : List Action :=
  [.newRegistry, .newClass ⟨0⟩ "Point" none, .newInstance ⟨0⟩ ⟨0⟩, .newStore ⟨0⟩,
    .newModule ⟨0⟩ "points", .setAttribute ⟨0⟩ (.object (.inst ⟨0⟩)) "x" (.int 1),
    .setAttribute ⟨0⟩ (.object (.inst ⟨0⟩)) "y" (.int 2),
    .setAttribute ⟨0⟩ (.detached ⟨0⟩) "x" (.str "one"),
    .setAttribute ⟨0⟩ (.object (.mod ⟨0⟩)) "x" .nothing,
    .setAttribute ⟨0⟩ (.object (.inst ⟨0⟩)) "y" (.bool true),
    .setAttribute ⟨0⟩ (.detached ⟨0⟩) "y" (.float 0),
    .setAttribute ⟨0⟩ (.object (.mod ⟨0⟩)) "y" (.int 3),
    .setAttribute ⟨0⟩ (.detached ⟨0⟩) "y" (.int 4),
    .setAttribute ⟨0⟩ (.object (.inst ⟨0⟩)) "x" (.float 0)]

/-- The instance and the store have one shape in the end, and the module has another one. -/
theorem layouts_converge_of_converged :
    let world := (empty.run converged).world
    (world.store (.object (.inst ⟨0⟩))).shape.same (world.store (.detached ⟨0⟩)).shape = true ∧
      ¬ (world.store (.object (.inst ⟨0⟩))).shape.same
        (world.store (.object (.mod ⟨0⟩))).shape = true := by
  intro world
  have admitted : empty.AdmitsAll converged := by decide
  have inst : settledIn ⟨0⟩ converged (.object (.inst ⟨0⟩)) = true := by decide
  have store : settledIn ⟨0⟩ converged (.detached ⟨0⟩) = true := by decide
  have points : settledIn ⟨0⟩ converged (.object (.mod ⟨0⟩)) = true := by decide
  obtain ⟨same_iff, -⟩ := layouts_converge admitted inst store
  obtain ⟨other_iff, -⟩ := layouts_converge admitted inst points
  refine ⟨same_iff.2 ?_, other_iff.not.2 ?_⟩
  · rw [← Ledger.signature_eq_iff]
    decide
  · rintro ⟨-, kinds⟩
    exact absurd (kinds "y") (by decide)

end Session

end InlineCache
