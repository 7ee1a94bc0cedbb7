import InlineCache.Proofs.Session.Growth
import InlineCache.Proofs.Shape.Canonical

/-!
# Layouts are canonical along a history

Whatever a client does to the space of shapes, by writes or by asking for layouts, it publishes
successors that were missing. So the layouts that it obtains from one empty shape are told apart by
their names and kinds, in whatever order it came to them, and an answer is good for ever.

## Main definitions

* `Session.Obtained`: the client came to a shape from an empty one by additions and widenings

## Main results

* `evolves_after`: one admitted action is a sequence of publications
* `Reachable.linked`: the space of a reachable session is linked
* `Obtained.traced`: a shape that was obtained is published, and has the origin that it was obtained
  from
* `shapes_canonical`: identity of shapes is equality of roots, names and kinds
-/

namespace InlineCache

/-- A write publishes the shapes that it needs. -/
theorem AttributeStore.evolves_set {store : AttributeStore} {space : ShapeSpace}
    {registry : RegistryId} (sound : space.Sound) (hr : registry.index < space.registries.size)
    (published : space.Published store.shape) (name : String) (value : Value) :
    space.Evolves (store.set space registry name value).space := by
  unfold set
  cases store.location? name with
  | none => exact ShapeSpace.evolves_withAttribute published registry name value.kind
  | some location =>
    dsimp only
    split
    · exact .refl _
    · exact sound.evolves_widen hr store.shape name

theorem World.space_setAttribute {world : World} (registry : RegistryId) (holder : Holder)
    (name : String) (value : Value) :
    (world.setAttribute registry holder name value).world.space =
      (world.written registry holder name value).space := by
  have stored : (world.stored registry holder name value).space =
      (world.written registry holder name value).space := space_putStore _ holder _
  rcases world_setAttribute_cases world registry holder name value with e | ⟨c, -, e⟩
  · rw [e, stored]
  · rw [e, ← stored]
    rfl

namespace Session

variable {session : Session} {root root' shape a b : Shape}

/-! ## Actions publish -/

theorem evolves_setSuperclass {world : World} {c : ClassId} {superclass : Option ClassId}
    {step : Step Unit} (done : world.setSuperclass c superclass = .ok step) :
    world.space.Evolves step.world.space := by
  rw [World.setSuperclass_eq_ok done]
  exact .refl _

/-- **An admitted action** is a sequence of publications. -/
theorem evolves_after (sound : session.world.Sound) {action : Action}
    (admitted : session.Admits action) :
    session.world.space.Evolves (session.after action).world.space := by
  cases action with
  | newRegistry => exact .single .registry
  | publishRoot => exact .single .root
  | withAttribute registry base name kind =>
    exact ShapeSpace.evolves_withAttribute admitted.2 registry name kind
  | widen registry base name => exact sound.space.evolves_widen admitted.1 base name
  | setAttribute registry holder name value =>
    have published := sound.published holder admitted.2.1
    show session.world.space.Evolves (session.world.setAttribute ..).world.space
    rw [World.space_setAttribute]
    exact AttributeStore.evolves_set sound.space admitted.1 published name value
  | setSuperclass c superclass =>
    rw [after, perform]
    split
    · next step done => exact evolves_setSuperclass done
    · exact .refl _
  | siteAt table place name =>
    rw [world_after_siteAt]
    exact .refl _
  | load table place name value =>
    rw [world_after_load]
    exact .refl _
  -- What is left publishes nothing.
  | newClass | newInstance | newModule | newStore | newStoreOn | copyStore | mint | invalidate
  | newSite | read | readInt | readFloat | readBool | newTable | clearTable => exact .refl _

theorem Reachable.evolves_run (reached : session.Reachable) {history : List Action}
    (admitted : session.AdmitsAll history) :
    session.world.space.Evolves (session.run history).world.space := by
  induction history generalizing session with
  | nil => exact .refl _
  | cons action rest ih =>
    have first := evolves_after reached.sound admitted.1
    exact first.trans (ih (reached.after admitted.1) admitted.2)

theorem Reachable.linked (reached : session.Reachable) : session.world.space.Linked :=
  Reachable.induction (motive := fun s => s.world.space.Linked) ShapeSpace.linked_empty
    (fun _ _ reached linked admitted => (evolves_after reached.sound admitted).linked linked)
    reached

/-! ## Obtaining a shape -/

/-- The client came to the shape from the root, the empty shape of a registry or one that no
registry owns, by additions through any registries and by widenings through registries that own the
root. In between it did whatever it liked. -/
inductive Obtained (root : Shape) : Session → Shape → Prop where
  /-- The empty shape of a registry. -/
  | registry {session : Session} {registry : RegistryId} (reached : session.Reachable)
    (opened : session.world.HasRegistry registry) (own : session.world.space.root registry = root) :
    Obtained root session root
  /-- An empty shape that no registry owns. -/
  | bare {session : Session} (reached : session.Reachable)
    (answered : (session.perform .publishRoot).answer = .shape root) :
    Obtained root (session.after .publishRoot) root
  /-- The answer to an addition. -/
  | addition {session : Session} {base shape : Shape} {registry : RegistryId} {name : String}
    {kind : Kind} (before : Obtained root session base)
    (opened : session.world.HasRegistry registry)
    (answered : (session.perform (.withAttribute registry base name kind)).answer = .shape shape) :
    Obtained root (session.after (.withAttribute registry base name kind)) shape
  /-- The answer to a widening. -/
  | widening {session : Session} {base shape : Shape} {registry : RegistryId} {name : String}
    (before : Obtained root session base) (opened : session.world.HasRegistry registry)
    (own : session.world.space.root registry = root)
    (answered : (session.perform (.widen registry base name)).answer = .shape shape) :
    Obtained root (session.after (.widen registry base name)) shape
  /-- Something else happened. -/
  | later {session : Session} {shape : Shape} {action : Action}
    (before : Obtained root session shape) (admitted : session.Admits action) :
    Obtained root (session.after action) shape

/-- What is known of a shape that was obtained. -/
structure Traced (root : Shape) (session : Session) (shape : Shape) : Prop where
  reached : session.Reachable
  published : session.world.space.Published shape
  origin : shape.origin = root

theorem Obtained.traced (obtained : Obtained root session shape) : Traced root session shape := by
  induction obtained with
  | registry reached opened own =>
    obtain ⟨published, serial, empty⟩ := reached.sound.space.root _ opened
    rw [own] at published empty
    exact ⟨reached, published, by rw [empty, Shape.origin_empty]⟩
  | bare reached answered =>
    cases answered
    exact ⟨reached.after trivial, reached.sound.space.publishRoot.published, rfl⟩
  | addition before opened answered ih =>
    obtain ⟨reached, published, origin⟩ := ih
    cases answered
    have space := reached.sound.space
    exact ⟨reached.after ⟨opened, published⟩,
      (space.withAttribute opened published _ _).1.published,
      (space.origin_withAttribute opened published _ _).trans origin⟩
  | widening before opened own answered ih =>
    obtain ⟨reached, published, origin⟩ := ih
    cases answered
    have space := reached.sound.space
    exact ⟨reached.after ⟨opened, published⟩, (space.widen opened published _).published,
      (space.origin_widen opened (origin.trans own.symm) _).trans origin⟩
  | later before admitted ih =>
    obtain ⟨reached, published, origin⟩ := ih
    exact ⟨reached.after admitted, (evolves_after reached.sound admitted).published published,
      origin⟩

/-- Identity of published shapes is equality of origins, names and kinds. -/
theorem Reachable.same_iff (reached : session.Reachable) (ha : session.world.space.Published a)
    (hb : session.world.space.Published b) :
    a.same b = true ↔ a.origin = b.origin ∧ a.signature = b.signature := by
  constructor
  · intro same
    obtain rfl : a = b := ha.eq_of_same hb same
    exact ⟨rfl, rfl⟩
  · rintro ⟨origin, signature⟩
    obtain rfl : a = b := reached.linked.eq_of_signature_eq ha hb origin signature
    exact beq_self_eq_true a.serial

/-- **Shapes are canonical.** Two shapes that a client obtained are the same one if and only if they
were obtained from the same root and have the same names and kinds in the same order. An answer to
an addition is the answer to every later one of the same name and kind to the same shape, through
whichever registry. A published shape stays published as it is, and keeps its transitions. -/
theorem shapes_canonical (reached : session.Reachable) :
    (∀ root root' a b, Obtained root session a → Obtained root' session b →
      (a.same b = true ↔ root = root' ∧ a.signature = b.signature)) ∧
    (∀ registry base name kind shape,
      session.Admits (.withAttribute registry base name kind) →
      (session.perform (.withAttribute registry base name kind)).answer = .shape shape →
      ∀ history, (session.after (.withAttribute registry base name kind)).AdmitsAll history →
      let later := (session.after (.withAttribute registry base name kind)).run history
      ∀ registry', (later.perform (.withAttribute registry' base name kind)).answer =
        .shape shape) ∧
    (∀ shape, session.world.space.Published shape → ∀ history, session.AdmitsAll history →
      let later := (session.run history).world.space
      later.Published shape ∧ ∀ name kind target,
        session.world.space.transition? shape name kind = some target →
        later.transition? shape name kind = some target) := by
  refine ⟨?_, ?_, ?_⟩
  · intro root root' a b ha hb
    obtain ⟨-, published, rfl⟩ := ha.traced
    obtain ⟨-, published', rfl⟩ := hb.traced
    exact reached.same_iff published published'
  · intro registry base name kind shape admitted answered history rest later registry'
    -- the answer is a transition by now, and every later addition follows it
    have found : (session.after (.withAttribute registry base name kind)).world.space.transition?
        base name kind = some shape := by
      cases answered
      exact ShapeSpace.transition?_withAttribute admitted.2 registry name kind
    have evolves := (reached.after admitted).evolves_run rest
    show Reply.shape (later.world.space.withAttribute registry' base name kind).1 = _
    rw [ShapeSpace.withAttribute_of_transition (evolves.transition?_eq found)]
  · intro shape published history admitted later
    have evolves := reached.evolves_run admitted
    exact ⟨evolves.published published, fun _ _ _ found => evolves.transition?_eq found⟩

/-- One integer attribute, laid out by the first of two registries. -/
def integerLayout : Shape := (Shape.empty 0).successor 2 1 "x" .int

/-- The attribute in a boxed slot. -/
def boxedLayout : Shape := (Shape.empty 0).successor 3 2 "x" .boxed

/-- The attribute in a boxed slot, laid out from the empty shape of the other registry. -/
def foreignLayout : Shape := (Shape.empty 1).successor 4 1 "x" .boxed

/-- Two registries, and an integer slot on the empty shape of the first one. -/
def laidOut : List Action :=
  [.newRegistry, .newRegistry, .withAttribute ⟨0⟩ (.empty 0) "x" .int]

/-- The integer slot is widened, and the other registry asks for a boxed slot from the start, on the
same empty shape and on its own. -/
def converging : List Action :=
  [.widen ⟨0⟩ integerLayout "x", .withAttribute ⟨1⟩ (.empty 0) "x" .boxed,
    .withAttribute ⟨1⟩ (.empty 1) "x" .boxed]

/-- Either way to a boxed slot leads to one shape. The shape of the other registry is another one,
although it has the same names and kinds; and the integer slot is there still. -/
theorem shapes_canonical_of_converging :
    let session := empty.run laidOut
    session.replies converging = [.shape boxedLayout, .shape boxedLayout, .shape foreignLayout] ∧
      boxedLayout.signature = foreignLayout.signature ∧ boxedLayout.same foreignLayout = false ∧
      (session.run converging).world.space.Published integerLayout := by
  intro session
  have reached : session.Reachable := ⟨laidOut, by decide, rfl⟩
  have admitted : session.AdmitsAll converging := by decide
  have published : session.world.space.Published integerLayout := by decide
  obtain ⟨-, -, kept⟩ := shapes_canonical reached
  obtain ⟨same_iff, -, -⟩ := shapes_canonical (reached.run admitted)
  obtain ⟨there, -⟩ := kept integerLayout published converging admitted
  have here : Obtained (.empty 0) (session.run converging) boxedLayout := by
    have root : Obtained (.empty 0) (empty.run [.newRegistry, .newRegistry]) (.empty 0) :=
      .registry ⟨[.newRegistry, .newRegistry], by decide, rfl⟩
        (show World.HasRegistry _ ⟨0⟩ by decide) (by decide)
    have added : ((empty.run [.newRegistry, .newRegistry]).perform
        (.withAttribute ⟨0⟩ (.empty 0) "x" .int)).answer = .shape integerLayout := by rfl
    have integer : Obtained (.empty 0) session integerLayout := .addition root (by decide) added
    have answered : (session.perform (.widen ⟨0⟩ integerLayout "x")).answer =
        .shape boxedLayout := by rfl
    have widened := Obtained.widening integer (by decide) (by decide) answered
    rw [converging, run_cons, run_cons, run_cons, run_nil]
    exact .later (.later widened (by decide)) (by decide)
  have other : Obtained (.empty 1) (session.run converging) foreignLayout := by
    rw [converging, run_cons, run_cons, run_cons, run_nil]
    have before := (reached.after admitted.1).after admitted.2.1
    have root : Obtained (.empty 1) _ (.empty 1) :=
      .registry before (show World.HasRegistry _ ⟨1⟩ by decide) (by decide)
    exact .addition root (by decide) (by rfl)
  refine ⟨by rfl, by decide, ?_, there⟩
  · rw [Bool.eq_false_iff, Ne, same_iff _ _ _ _ here other]
    rintro ⟨roots, -⟩
    cases roots

end Session

end InlineCache
