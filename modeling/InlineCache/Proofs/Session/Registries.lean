import InlineCache.Proofs.Session.Progress
import InlineCache.Proofs.Session.Layouts
import InlineCache.Proofs.Shape.Counting
import InlineCache.Proofs.Store.Retracing

/-!
# Registries count, and writes are retraced

A registry is used alone if it extends its own shapes and no others, and nobody else extends its
shapes. Its count then is the number of its shapes, at any time. And whatever the writes to one
holder published is there for the writes to another one that start from the same shape: made under
the same names, with values of the same kinds, they go through the same shapes with the same
outcomes and publish nothing, however much was published in between.

## Main definitions

* `Session.KeepsApart`, `Session.UsesAlone`: a registry is used alone by an action, and by a history
* `Action.request?`, `requests`: what the writes to a holder ask of its layout
* `Session.course`: the outcomes of the writes to a holder, with the shapes that they leave
* `Session.PublishesNothing`: the writes to a holder publish nothing

## Main results

* `tallied_after`, `Reachable.tallied_run`: the count stays right
* `Reachable.paved_run`: a history paves the way for the writes that it made
* `Reachable.course_of_paved`: writes on a paved way keep to it
* `registries_count_and_retrace`: counting and retracing, from any moment on
-/

namespace InlineCache

/-- A write publishes shapes of the registry's origin if and only if it goes through the
registry. -/
theorem ShapeSpace.Tallied.set {space : ShapeSpace} {registry through : RegistryId}
    (tallied : space.Tallied registry) (sound : space.Sound)
    (opened : through.index < space.registries.size) {store : AttributeStore}
    (published : space.Published store.shape)
    (apart : through = registry ↔ store.shape.origin = space.root registry) (name : String)
    (value : Value) : (store.set space through name value).space.Tallied registry := by
  rw [AttributeStore.space_set]
  split
  · exact tallied.withAttribute published apart name value.kind
  · split
    · exact tallied
    · exact tallied.widen sound opened store.shape name

/-- What the action asks of the layout of the holder, if it is a write to it. -/
def Action.request? (holder : Holder) : Action → Option ShapeSpace.Request
  | .setAttribute registry target name value =>
    if target = holder then some ⟨registry, name, value.kind⟩ else none
  | _ => none

/-- What the writes of a history to the holder ask of its layout, in order. -/
def requests (holder : Holder) (history : List Action) : List ShapeSpace.Request :=
  history.filterMap (Action.request? holder)

theorem requests_setAttribute (holder : Holder) (registry : RegistryId) (name : String)
    (value : Value) (rest : List Action) :
    requests holder (.setAttribute registry holder name value :: rest) =
      ⟨registry, name, value.kind⟩ :: requests holder rest := by
  have asked : Action.request? holder (.setAttribute registry holder name value) =
      some ⟨registry, name, value.kind⟩ := if_pos rfl
  rw [requests, List.filterMap_cons_some asked, requests]

theorem requests_of_none {holder : Holder} {action : Action} (none : action.request? holder = none)
    (rest : List Action) : requests holder (action :: rest) = requests holder rest :=
  List.filterMap_cons_none none

/-- An action is a write to the holder, or asks nothing of its layout. -/
theorem Action.request?_cases (holder : Holder) (action : Action) :
    (∃ registry name value, action = .setAttribute registry holder name value) ∨
      action.request? holder = none ∧
        ∀ session : Session, session.writeTo? holder action = none := by
  cases action with
  | setAttribute registry target name value =>
    by_cases here : target = holder
    · subst here
      exact .inl ⟨registry, name, value, rfl⟩
    · refine .inr ⟨if_neg here, fun session => ?_⟩
      rw [Session.writeTo?_setAttribute, if_neg here]
  | _ => exact .inr ⟨rfl, fun _ => Session.writeTo?_of_not_isWrite rfl⟩

namespace Session

variable {session : Session} {registry through : RegistryId} {holder : Holder} {action : Action}
  {name : String} {value : Value} {rest : List Action}

/-! ## Counting -/

/-- The action extends shapes of the registry through the registry only, and through the registry
only such shapes. Widenings need no care, since whoever widens builds on its own empty shape. -/
def KeepsApart (session : Session) (registry : RegistryId) : Action → Prop
  | .withAttribute through base _ _ =>
    through = registry ↔ base.origin = session.world.space.root registry
  | .setAttribute through holder _ _ =>
    through = registry ↔
      (session.world.store holder).shape.origin = session.world.space.root registry
  | _ => True

/-- The registry is used alone by all actions of the history. -/
def UsesAlone (session : Session) (registry : RegistryId) : List Action → Prop
  | [] => True
  | action :: rest =>
    session.KeepsApart registry action ∧ (session.after action).UsesAlone registry rest

instance (session : Session) (registry : RegistryId) :
    (action : Action) → Decidable (session.KeepsApart registry action)
  | .withAttribute _ _ _ _ | .setAttribute _ _ _ _ => inferInstanceAs (Decidable (_ ↔ _))
  | .newRegistry | .newClass _ _ _ | .newInstance _ _ | .newModule _ _ | .newStore _
  | .newStoreOn _ | .copyStore _ | .setSuperclass _ _ | .mint | .invalidate _ | .publishRoot
  | .widen _ _ _ | .newSite _ _ | .read _ _ | .readInt _ _ | .readFloat _ _ | .readBool _ _
  | .newTable _ | .siteAt _ _ _ | .load _ _ _ _ | .clearTable _ => inferInstanceAs (Decidable True)

instance decidableUsesAlone (session : Session) (registry : RegistryId) :
    (history : List Action) → Decidable (session.UsesAlone registry history)
  | [] => .isTrue trivial
  | action :: rest =>
    have := decidableUsesAlone (session.after action) registry rest
    inferInstanceAs (Decidable (_ ∧ _))

theorem space_after_setAttribute (session : Session) (through : RegistryId) (holder : Holder)
    (name : String) (value : Value) :
    (session.after (.setAttribute through holder name value)).world.space =
      (session.world.written through holder name value).space :=
  World.space_setAttribute ..

/-- **An action keeps the count right** if the registry is used alone. -/
theorem tallied_after (tallied : session.world.space.Tallied registry)
    (sound : session.world.Sound) (admitted : session.Admits action)
    (apart : session.KeepsApart registry action) :
    (session.after action).world.space.Tallied registry := by
  cases action with
  | newRegistry => exact tallied.newRegistry sound.space
  | publishRoot => exact tallied.publishRoot sound.space
  | withAttribute through base name kind =>
    exact tallied.withAttribute admitted.2 apart name kind
  | widen through base name => exact tallied.widen sound.space admitted.1 base name
  | setAttribute through holder name value =>
    have published := sound.published holder admitted.2.1
    rw [space_after_setAttribute]
    exact tallied.set sound.space admitted.1 published apart name value
  | setSuperclass c superclass =>
    rw [after, perform]
    split
    · next step done =>
      show step.world.space.Tallied registry
      rw [World.setSuperclass_eq_ok done]
      exact tallied
    · exact tallied
  | siteAt table place name => rwa [world_after_siteAt]
  | load table place name value => rwa [world_after_load]
  -- What is left publishes nothing.
  | newClass | newInstance | newModule | newStore | newStoreOn | copyStore | mint | invalidate
  | newSite | read | readInt | readFloat | readBool | newTable | clearTable => exact tallied

theorem Reachable.tallied_run (reached : session.Reachable)
    (tallied : session.world.space.Tallied registry) {history : List Action}
    (admitted : session.AdmitsAll history) (alone : session.UsesAlone registry history) :
    (session.run history).world.space.Tallied registry := by
  induction history generalizing session with
  | nil => exact tallied
  | cons action rest ih =>
    have next := tallied_after tallied reached.sound admitted.1 alone.1
    exact ih (reached.after admitted.1) next admitted.2 alone.2

/-! ## Retracing -/

/-- The outcomes of the writes of a history to the holder, each with the shape that the write left
the holder with. -/
def course (session : Session) (holder : Holder) : List Action → List (WriteOutcome × Shape)
  | [] => []
  | action :: rest =>
    ((session.writeTo? holder action).map fun write =>
      (write.2, ((session.after action).world.store holder).shape)).toList ++
        (session.after action).course holder rest

/-- The writes of a history to the holder leave the space of shapes as it is. -/
def PublishesNothing (session : Session) (holder : Holder) : List Action → Prop
  | [] => True
  | action :: rest =>
    (session.writeTo? holder action ≠ none →
        (session.after action).world.space = session.world.space) ∧
      (session.after action).PublishesNothing holder rest

theorem course_of_unwritten (unwritten : session.writeTo? holder action = none) :
    session.course holder (action :: rest) = (session.after action).course holder rest := by
  rw [course, unwritten]
  rfl

theorem shape_after_setAttribute (there : session.world.HasHolder holder) :
    ((session.after (.setAttribute through holder name value)).world.store holder).shape =
      (session.world.written through holder name value).store.shape :=
  congrArg AttributeStore.shape (World.store_setAttribute_self there)

theorem course_setAttribute (there : session.world.HasHolder holder) :
    session.course holder (.setAttribute through holder name value :: rest) =
      ((session.world.written through holder name value).outcome,
          (session.world.written through holder name value).store.shape) ::
        (session.after (.setAttribute through holder name value)).course holder rest := by
  rw [course, writeTo?_setAttribute, if_pos rfl, ← shape_after_setAttribute there]
  rfl

/-- **A history paves the way** for the writes that it made. -/
theorem Reachable.paved_run (reached : session.Reachable) (there : session.world.HasHolder holder)
    {history : List Action} (admitted : session.AdmitsAll history) :
    (session.run history).world.space.PavedAlong (session.world.store holder).shape
      (requests holder history) (session.course holder history) := by
  -- Every action is a write to the holder, or leaves its store alone.
  induction history generalizing session with
  | nil => exact .nil _
  | cons action rest ih =>
    have sound := reached.sound
    have there' := (grows_after sound admitted.1).ext.holders holder there
    have later := ih (reached.after admitted.1) there' admitted.2
    rcases action.request?_cases holder with ⟨through, name, value, rfl⟩ | ⟨none, unwritten⟩
    · have first := sound.space.paved_set admitted.1.1 (sound.published holder there) name value
      have evolves := (reached.after admitted.1).evolves_run admitted.2
      rw [space_after_setAttribute] at evolves
      rw [shape_after_setAttribute there] at later
      rw [course_setAttribute there, requests_setAttribute]
      exact .cons (fun last onward => first last (evolves.trans onward)) later
    · rw [store_after_of_unwritten admitted.1 there (unwritten session)] at later
      rw [course_of_unwritten (unwritten session), requests_of_none none]
      exact later

/-- **Writes on a paved way** keep to it, and publish nothing. -/
theorem Reachable.course_of_paved (reached : session.Reachable)
    (there : session.world.HasHolder holder) {history : List Action}
    (admitted : session.AdmitsAll history) {course : List (WriteOutcome × Shape)}
    (paved : session.world.space.PavedAlong (session.world.store holder).shape
      (requests holder history) course) :
    session.course holder history = course ∧ session.PublishesNothing holder history := by
  induction history generalizing session course with
  | nil =>
    cases paved
    exact ⟨rfl, trivial⟩
  | cons action rest ih =>
    have sound := reached.sound
    have there' := (grows_after sound admitted.1).ext.holders holder there
    have evolves := evolves_after sound admitted.1
    rcases action.request?_cases holder with ⟨through, name, value, rfl⟩ | ⟨none, unwritten⟩
    · rw [requests_setAttribute] at paved
      cases paved with
      | cons first onward =>
        obtain ⟨outcome, shape, space⟩ := first _ (.refl _) _ value rfl rfl
        have onward := onward.evolves evolves
        rw [← (shape_after_setAttribute there).trans shape] at onward
        obtain ⟨courses, nothing⟩ := ih (reached.after admitted.1) there' admitted.2 onward
        rw [course_setAttribute there, courses]
        exact ⟨congrArg (· :: _) (Prod.ext outcome shape),
          fun _ => (space_after_setAttribute ..).trans space, nothing⟩
    · rw [requests_of_none none] at paved
      have onward := paved.evolves evolves
      rw [← store_after_of_unwritten admitted.1 there (unwritten session)] at onward
      obtain ⟨courses, nothing⟩ := ih (reached.after admitted.1) there' admitted.2 onward
      rw [course_of_unwritten (unwritten session)]
      exact ⟨courses, fun wrote => absurd (unwritten session) wrote, nothing⟩

/-! ## Registries -/

/-- **Registries count, and writes are retraced.** As long as a registry is used alone, from its
opening on, its count numbers the shapes that transitions lead to from its empty shape, and an
addition raises it by one exactly if there is no transition for it yet. And if the writes to a
second holder start from the shape that those to a first holder started from, for instance since
both were empty and belonged to one registry, and ask for the same names and kinds, then they have
the same outcomes, go through the same shapes and publish nothing, whatever happened in between. -/
theorem registries_count_and_retrace (reached : session.Reachable) :
    (let registry := session.world.newRegistry.1
      let opened := session.after .newRegistry
      ∀ history, opened.AdmitsAll history → opened.UsesAlone registry history →
        (opened.run history).world.space.Counts registry) ∧
    ∀ first second past between future, session.AdmitsAll (past ++ between ++ future) →
      session.world.HasHolder first →
      let later := session.run (past ++ between)
      later.world.HasHolder second →
      (later.world.store second).shape.same (session.world.store first).shape = true →
      requests second future = requests first past →
      later.course second future = session.course first past ∧
        later.PublishesNothing second future := by
  constructor
  · intro registry opened history admitted alone
    have reached' : opened.Reachable := reached.after trivial
    have started : opened.world.space.Tallied registry :=
      reached.sound.space.tallied_newRegistry reached.linked
    have tallied := reached'.tallied_run started admitted alone
    have reached := reached'.run admitted
    exact tallied.counts reached.sound.space reached.linked
  · intro first second past between future admitted there later there' same asked
    obtain ⟨before, after⟩ := admitsAll_append.1 admitted
    obtain ⟨began, went⟩ := admitsAll_append.1 before
    have reached' : later.Reachable := reached.run before
    have since := (reached.run began).evolves_run went
    have paved := (reached.paved_run there began).evolves since
    have published := (reached.evolves_run before).published (reached.sound.published first there)
    have start : (later.world.store second).shape = (session.world.store first).shape :=
      (reached'.sound.published second there').eq_of_same published same
    rw [← run_append, ← asked, ← start] at paved
    exact reached'.course_of_paved there' after paved

/-- Two empty instances of a class, and a module. -/
def twins : List Action :=
  [.newClass ⟨0⟩ "Point" none, .newInstance ⟨0⟩ ⟨0⟩, .newInstance ⟨0⟩ ⟨0⟩, .newModule ⟨0⟩ "points"]

/-- The writes to the first instance, one of which widens a slot. -/
def firstTime : List Action :=
  [.setAttribute ⟨0⟩ (.object (.inst ⟨0⟩)) "x" (.int 1),
    .setAttribute ⟨0⟩ (.object (.inst ⟨0⟩)) "y" (.bool true),
    .setAttribute ⟨0⟩ (.object (.inst ⟨0⟩)) "x" (.str "one"),
    .setAttribute ⟨0⟩ (.object (.inst ⟨0⟩)) "x" (.float 0)]

/-- The module gets the names in the other order, and another registry is opened and used. -/
def meanwhile : List Action :=
  [.newRegistry, .setAttribute ⟨0⟩ (.object (.mod ⟨0⟩)) "y" (.int 2), .newStore ⟨1⟩,
    .setAttribute ⟨1⟩ (.detached ⟨0⟩) "x" (.int 3),
    .setAttribute ⟨0⟩ (.object (.mod ⟨0⟩)) "x" (.int 4),
    .setAttribute ⟨0⟩ (.object (.mod ⟨0⟩)) "y" (.str "two")]

/-- The same names and kinds for the second instance, and a write to the module among them. -/
def secondTime : List Action :=
  [.setAttribute ⟨0⟩ (.object (.inst ⟨1⟩)) "x" (.int 5),
    .setAttribute ⟨0⟩ (.object (.inst ⟨1⟩)) "y" (.bool false),
    .setAttribute ⟨0⟩ (.object (.mod ⟨0⟩)) "z" .nothing,
    .setAttribute ⟨0⟩ (.object (.inst ⟨1⟩)) "x" (.str "five"),
    .setAttribute ⟨0⟩ (.object (.inst ⟨1⟩)) "x" (.float 1)]

/-- The second instance follows the first one, through the widening as well. The registry numbers
ten shapes in the end, two of them laid out on the way to that widening. -/
theorem registries_count_and_retrace_of_twins :
    let session := (empty.after .newRegistry).run twins
    let later := session.run (firstTime ++ meanwhile)
    let last := (later.run secondTime).world.space
    let course := later.course (.object (.inst ⟨1⟩)) secondTime
    (last.Counts ⟨0⟩ ∧ ∀ i < 10, ∃ shape, last.Reaches (.empty 0) shape ∧ shape.id = i) ∧
      course = session.course (.object (.inst ⟨0⟩)) firstTime ∧
      course.map Prod.fst = [.added, .added, .widened, .inPlace] ∧
      later.PublishesNothing (.object (.inst ⟨1⟩)) secondTime := by
  intro session later last course
  have opened : (empty.after .newRegistry).Reachable := reachable_empty.after trivial
  have reached : session.Reachable := opened.run (by decide)
  obtain ⟨count, -⟩ := registries_count_and_retrace reachable_empty
  obtain ⟨-, retrace⟩ := registries_count_and_retrace reached
  obtain ⟨same, nothing⟩ := retrace (.object (.inst ⟨0⟩)) (.object (.inst ⟨1⟩)) firstTime meanwhile
    secondTime (by decide) (by decide) (by decide) (by decide) (by decide)
  have whole : (empty.after .newRegistry).run (twins ++ (firstTime ++ meanwhile) ++ secondTime) =
      later.run secondTime := by
    rw [run_append, run_append]
  have counts := count (twins ++ (firstTime ++ meanwhile) ++ secondTime) (by decide) (by decide)
  rw [whole] at counts
  have numbers := counts.consecutive.lt_iff
  have total : (later.run secondTime).world.space.shapeCount empty.world.newRegistry.1 = 10 := by
    decide
  have root : (later.run secondTime).world.space.root empty.world.newRegistry.1 = .empty 0 := by
    decide
  rw [total, root] at numbers
  refine ⟨⟨counts, fun i small => (numbers i).1 small⟩, same, by decide, nothing⟩

end Session

end InlineCache
