import InlineCache.Session

/-!
# Histories

A history is a list of actions, each of which creates something, changes the object world, or reads
at a call site. Performing one action is a step of the session with a reply; running a history
performs its actions in order and collects the replies.

An action names the things it acts on by identities. A session admits an action if all of them were
handed out before, and the shapes among its arguments were published. That is all a client can do,
since nothing but an earlier reply gives it an identity or a shape.

## Main definitions

* `Action`, `Reply`: what can be done, and what comes back
* `Session.perform`: one action
* `Session.run`, `Session.replies`: a history
* `Session.Admits`, `Session.AdmitsAll`: actions on things that are there
* `Session.Reachable`: the sessions that a history of admitted actions leads to

## Main results

* `run_append`: a history can be cut anywhere
* `admitsAll_append`: so can its admission
* `Reachable.run`: a reachable session stays reachable
-/

namespace InlineCache

/-- Whatever a client can do. -/
inductive Action where
  /-- Opens a registry. -/
  | newRegistry
  /-- Creates a class. -/
  | newClass (registry : RegistryId) (name : String) (superclass : Option ClassId)
  /-- Creates an instance. -/
  | newInstance (registry : RegistryId) (cls : ClassId)
  /-- Creates a module. -/
  | newModule (registry : RegistryId) (name : String)
  /-- Creates a store that belongs to no object. -/
  | newStore (registry : RegistryId)
  /-- Creates such a store on an empty shape, which need not be that of a registry. -/
  | newStoreOn (root : Shape)
  /-- Copies such a store. -/
  | copyStore (store : StoreId)
  /-- Writes an attribute. -/
  | setAttribute (registry : RegistryId) (holder : Holder) (name : String) (value : Value)
  /-- Gives a class another superclass, or none. -/
  | setSuperclass (cls : ClassId) (superclass : Option ClassId)
  /-- Mints a token. -/
  | mint
  /-- Invalidates a token. -/
  | invalidate (assumption : Assumption)
  /-- Publishes an empty shape that no registry owns. -/
  | publishRoot
  /-- Asks for a successor of a shape. -/
  | withAttribute (registry : RegistryId) (base : Shape) (name : String) (kind : Kind)
  /-- Asks for the widening of a shape. -/
  | widen (registry : RegistryId) (base : Shape) (name : String)
  /-- Creates a call site. -/
  | newSite (name : String) (limits : Limits)
  /-- Reads at a call site. -/
  | read (site : SiteId) (value : Value)
  /-- Reads an attribute that has to be an integer. -/
  | readInt (site : SiteId) (value : Value)
  /-- Reads an attribute that has to be a float. -/
  | readFloat (site : SiteId) (value : Value)
  /-- Reads an attribute that has to be a boolean. -/
  | readBool (site : SiteId) (value : Value)
  /-- Creates a table of call sites. -/
  | newTable (limits : Limits)
  /-- Finds or creates the call site at a place. -/
  | siteAt (table : TableId) (place : Place) (name : String)
  /-- Reads at a place. -/
  | load (table : TableId) (place : Place) (name : String) (value : Value)
  /-- Forgets all places of a table. -/
  | clearTable (table : TableId)
  deriving DecidableEq

/-- What an action replies. -/
inductive Reply where
  /-- Nothing that is not clear from the action. -/
  | done
  /-- What a write did to the layout. -/
  | wrote (outcome : WriteOutcome)
  /-- A change of superclass was refused. -/
  | refused (error : CycleError)
  /-- The invalidated token was valid until now. -/
  | invalidated (was : Bool)
  /-- A published shape. -/
  | shape (shape : Shape)
  /-- The answer of a read. -/
  | read (answer : Except ReadError Value)
  /-- The answer of a read of an integer. -/
  | readInt (answer : Except ReadError Int64)
  /-- The answer of a read of a float, as its bits. -/
  | readFloat (answer : Except ReadError UInt64)
  /-- The answer of a read of a boolean. -/
  | readBool (answer : Except ReadError Bool)
  /-- The call site at a place, if it reads the name. -/
  | site (answer : Except ReadError SiteId)

/-! ## Performing actions -/

namespace Session

/-- Puts another object world into a session. -/
def withWorld (session : Session) (world : World) : Session := { session with world }

/-- Puts another space of shapes into a session. -/
def withSpace (session : Session) (space : ShapeSpace) : Session :=
  { session with world := { session.world with space } }

/-- **Performs one action.** -/
def perform (session : Session) : Action → Outcome Reply
  | .newRegistry => ⟨.done, [], session.withWorld session.world.newRegistry.2⟩
  | .newClass registry name superclass =>
    ⟨.done, [], session.withWorld (session.world.newClass registry name superclass).2⟩
  | .newInstance registry cls =>
    ⟨.done, [], session.withWorld (session.world.newInstance registry cls).2⟩
  | .newModule registry name =>
    ⟨.done, [], session.withWorld (session.world.newModule registry name).2⟩
  | .newStore registry => ⟨.done, [], session.withWorld (session.world.newStore registry).2⟩
  | .newStoreOn root => ⟨.done, [], session.withWorld (session.world.newStoreOn root).2⟩
  | .copyStore store => ⟨.done, [], session.withWorld (session.world.copyStore store).2⟩
  | .setAttribute registry holder name value =>
    let step := session.world.setAttribute registry holder name value
    ⟨.wrote step.answer, step.events.map .world, session.withWorld step.world⟩
  | .setSuperclass cls superclass =>
    match session.world.setSuperclass cls superclass with
    | .ok step => ⟨.done, step.events.map .world, session.withWorld step.world⟩
    | .error error => ⟨.refused error, [], session⟩
  | .mint => ⟨.done, [], session.withWorld session.world.mint.2⟩
  | .invalidate assumption =>
    let (was, world) := session.world.invalidate assumption
    ⟨.invalidated was, [], session.withWorld world⟩
  | .publishRoot =>
    let (root, space) := session.world.space.publishRoot
    ⟨.shape root, [], session.withSpace space⟩
  | .withAttribute registry base name kind =>
    let (next, space) := session.world.space.withAttribute registry base name kind
    ⟨.shape next, [], session.withSpace space⟩
  | .widen registry base name =>
    let (next, space) := session.world.space.widen registry base name
    ⟨.shape next, [], session.withSpace space⟩
  | .newSite name limits => ⟨.done, [], (session.newSite name limits).2⟩
  | .read site value =>
    let outcome := session.read site value
    ⟨.read outcome.answer, outcome.events, outcome.session⟩
  | .readInt site value =>
    let outcome := session.readInt site value
    ⟨.readInt outcome.answer, outcome.events, outcome.session⟩
  | .readFloat site value =>
    let outcome := session.readFloat site value
    ⟨.readFloat outcome.answer, outcome.events, outcome.session⟩
  | .readBool site value =>
    let outcome := session.readBool site value
    ⟨.readBool outcome.answer, outcome.events, outcome.session⟩
  | .newTable limits => ⟨.done, [], (session.newTable limits).2⟩
  | .siteAt table place name =>
    let outcome := session.siteAt table place name
    ⟨.site outcome.answer, outcome.events, outcome.session⟩
  | .load table place name value =>
    let outcome := session.load table place name value
    ⟨.read outcome.answer, outcome.events, outcome.session⟩
  | .clearTable table => ⟨.done, [], session.clearTable table⟩

/-- The session after one action. -/
def after (session : Session) (action : Action) : Session := (session.perform action).session

/-- The session after a history. -/
def run (session : Session) (history : List Action) : Session := history.foldl after session

/-- The replies of a history, in order. -/
def replies (session : Session) : List Action → List Reply
  | [] => []
  | action :: rest => (session.perform action).answer :: (session.after action).replies rest

end Session

/-! ## Admitted actions -/

namespace World

/-- The registry was opened. -/
def HasRegistry (world : World) (r : RegistryId) : Prop := r.index < world.space.registries.size

/-- The class was created. -/
def HasClass (world : World) (c : ClassId) : Prop := c.index < world.classes.size

/-- The object was created. -/
def HasObject (world : World) : ObjectId → Prop
  | .inst i => i.index < world.instances.size
  | .cls c => c.index < world.classes.size
  | .mod m => m.index < world.modules.size

/-- The holder was created. -/
def HasHolder (world : World) : Holder → Prop
  | .object o => world.HasObject o
  | .detached s => s.index < world.stores.size

/-- The value is no object, or an object that was created. -/
def HasValue (world : World) (value : Value) : Prop := ∀ o ∈ value.object?, world.HasObject o

/-- The token was minted. -/
def HasAssumption (world : World) (a : Assumption) : Prop := a.index < world.assumptions.size

instance (world : World) (r : RegistryId) : Decidable (world.HasRegistry r) :=
  inferInstanceAs (Decidable (_ < _))

instance (world : World) (c : ClassId) : Decidable (world.HasClass c) :=
  inferInstanceAs (Decidable (_ < _))

instance (world : World) : (o : ObjectId) → Decidable (world.HasObject o)
  | .inst _ | .cls _ | .mod _ => inferInstanceAs (Decidable (_ < _))

instance (world : World) : (holder : Holder) → Decidable (world.HasHolder holder)
  | .object o => inferInstanceAs (Decidable (world.HasObject o))
  | .detached _ => inferInstanceAs (Decidable (_ < _))

instance (world : World) (value : Value) : Decidable (world.HasValue value) :=
  inferInstanceAs (Decidable (∀ o ∈ value.object?, world.HasObject o))

instance (world : World) (a : Assumption) : Decidable (world.HasAssumption a) :=
  inferInstanceAs (Decidable (_ < _))

end World

namespace Session

/-- The call site was created. -/
def HasSite (session : Session) (s : SiteId) : Prop := s.index < session.sites.size

/-- The table was created. -/
def HasTable (session : Session) (t : TableId) : Prop := t.index < session.tables.size

instance (session : Session) (s : SiteId) : Decidable (session.HasSite s) :=
  inferInstanceAs (Decidable (_ < _))

instance (session : Session) (t : TableId) : Decidable (session.HasTable t) :=
  inferInstanceAs (Decidable (_ < _))

/-- All that the action acts on is there. -/
def Admits (session : Session) : Action → Prop
  | .newRegistry | .mint | .publishRoot | .newSite _ _ | .newTable _ => True
  | .newClass registry _ superclass =>
    session.world.HasRegistry registry ∧ ∀ c ∈ superclass, session.world.HasClass c
  | .newInstance registry cls => session.world.HasRegistry registry ∧ session.world.HasClass cls
  | .newModule registry _ => session.world.HasRegistry registry
  | .newStore registry => session.world.HasRegistry registry
  | .newStoreOn root => session.world.space.Published root ∧ root.isEmpty = true
  | .copyStore store => session.world.HasHolder (.detached store)
  | .setAttribute registry holder _ value =>
    session.world.HasRegistry registry ∧ session.world.HasHolder holder ∧
      session.world.HasValue value
  | .setSuperclass cls superclass =>
    session.world.HasClass cls ∧ ∀ c ∈ superclass, session.world.HasClass c
  | .invalidate assumption => session.world.HasAssumption assumption
  | .withAttribute registry base _ _ =>
    session.world.HasRegistry registry ∧ session.world.space.Published base
  | .widen registry base _ =>
    session.world.HasRegistry registry ∧ session.world.space.Published base
  | .read site value | .readInt site value | .readFloat site value | .readBool site value =>
    session.HasSite site ∧ session.world.HasValue value
  | .siteAt table _ _ => session.HasTable table
  | .load table _ _ value => session.HasTable table ∧ session.world.HasValue value
  | .clearTable table => session.HasTable table

/-- Every action of the history is admitted when its turn comes. -/
def AdmitsAll (session : Session) : List Action → Prop
  | [] => True
  | action :: rest => session.Admits action ∧ (session.after action).AdmitsAll rest

instance (session : Session) : (action : Action) → Decidable (session.Admits action)
  | .newRegistry | .mint | .publishRoot | .newSite _ _ | .newTable _ =>
    inferInstanceAs (Decidable True)
  | .newClass _ _ _ | .newInstance _ _ | .newStoreOn _ | .setAttribute _ _ _ _
  | .setSuperclass _ _ | .withAttribute _ _ _ _ | .widen _ _ _ | .read _ _ | .readInt _ _
  | .readFloat _ _ | .readBool _ _ | .load _ _ _ _ => inferInstanceAs (Decidable (_ ∧ _))
  | .newModule registry _ | .newStore registry =>
    inferInstanceAs (Decidable (session.world.HasRegistry registry))
  | .copyStore store => inferInstanceAs (Decidable (session.world.HasHolder (.detached store)))
  | .invalidate a => inferInstanceAs (Decidable (session.world.HasAssumption a))
  | .siteAt table _ _ | .clearTable table => inferInstanceAs (Decidable (session.HasTable table))

instance decidableAdmitsAll (session : Session) :
    (history : List Action) → Decidable (session.AdmitsAll history)
  | [] => .isTrue trivial
  | action :: rest =>
    have := decidableAdmitsAll (session.after action) rest
    inferInstanceAs (Decidable (_ ∧ _))

/-- Some history of admitted actions leads from nothing to the session. -/
def Reachable (session : Session) : Prop :=
  ∃ history, empty.AdmitsAll history ∧ empty.run history = session

/-! ## Laws -/

@[simp] theorem run_nil (session : Session) : session.run [] = session := rfl

@[simp] theorem run_cons (session : Session) (action : Action) (rest : List Action) :
    session.run (action :: rest) = (session.after action).run rest := rfl

theorem run_append (session : Session) (first second : List Action) :
    session.run (first ++ second) = (session.run first).run second := by
  simp [run]

theorem admitsAll_append {session : Session} {first second : List Action} :
    session.AdmitsAll (first ++ second) ↔
      session.AdmitsAll first ∧ (session.run first).AdmitsAll second := by
  induction first generalizing session with
  | nil => simp [AdmitsAll]
  | cons action rest ih => simp [AdmitsAll, ih, and_assoc]

theorem reachable_empty : Reachable empty := ⟨[], trivial, rfl⟩

/-- A reachable session stays reachable. -/
theorem Reachable.run {session : Session} (h : session.Reachable) {history : List Action}
    (admitted : session.AdmitsAll history) : (session.run history).Reachable := by
  obtain ⟨first, hf, rfl⟩ := h
  exact ⟨first ++ history, admitsAll_append.2 ⟨hf, admitted⟩, run_append ..⟩

theorem Reachable.after {session : Session} (h : session.Reachable) {action : Action}
    (admitted : session.Admits action) : (session.after action).Reachable := by
  have one : session.AdmitsAll [action] := ⟨admitted, trivial⟩
  exact h.run one

/-- **Induction on histories**: what holds of nothing and is kept by every admitted action holds of
every reachable session. -/
theorem Reachable.induction {motive : Session → Prop} (start : motive empty)
    (step : ∀ session action, session.Reachable → motive session → session.Admits action →
      motive (session.after action))
    {session : Session} (h : session.Reachable) : motive session := by
  obtain ⟨history, admitted, rfl⟩ := h
  suffices ∀ (history : List Action) (s : Session), s.Reachable → motive s → s.AdmitsAll history →
      motive (s.run history) from this history empty reachable_empty start admitted
  intro history
  induction history with
  | nil => exact fun _ _ hm _ => hm
  | cons action rest ih =>
    intro s hs hm ha
    have reached : (s.after action).Reachable := hs.after ha.1
    exact ih _ reached (step s action hs hm ha.1) ha.2

end Session

end InlineCache
