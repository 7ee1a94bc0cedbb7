import InlineCache.Proofs.Session.Additions
import InlineCache.Proofs.Session.Layouts
import InlineCache.Proofs.Shape.Widening

/-!
# Widenings box names, once and in either order

A client asks a registry to widen a name of a shape, and what it got then is the same for ever. If
the newest slot of the name is primitive, the answer lists the same names with every entry of the
name boxed, in the slots of a shape that is built so from the start. Otherwise the answer is the
shape itself. To widen a name again changes nothing, and two names that one registry widens lead to
one shape in either order, whatever else has been published, before or in between.

## Main definitions

* `Session.Widened`: what a registry once answered
* `Session.LaidBoxed`: the answer, entry by entry and slot by slot

## Main results

* `Widened.answer`: what is known of an answer, at any time after it
* `widening_law`: an answer boxes the name or is the shape itself; widenings repeat and commute
-/

namespace InlineCache

namespace Session

variable {session : Session} {registry : RegistryId} {base shape : Shape} {name other : String}

/-- At some time the client asked the registry to widen the name, and this was the answer. Since
then it did whatever it liked. -/
inductive Widened (registry : RegistryId) (base : Shape) (name : String) (shape : Shape) :
    Session → Prop where
  /-- The answer has just come. -/
  | answered {session : Session} (reached : session.Reachable)
    (admitted : session.Admits (.widen registry base name))
    (answered : (session.perform (.widen registry base name)).answer = .shape shape) :
    Widened registry base name shape (session.after (.widen registry base name))
  /-- Something else happened. -/
  | later {session : Session} {action : Action} (before : Widened registry base name shape session)
    (admitted : session.Admits action) : Widened registry base name shape (session.after action)

/-- The shape lists the names of the base, in the same order. Every entry of the name is boxed, and
every other one has the kind that it had. Its slots are those of any shape that is built by these
additions. -/
structure LaidBoxed (session : Session) (base : Shape) (name : String) (shape : Shape) : Prop where
  entries : List.Forall₂ (Property.Reboxed name) base.properties shape.properties
  direct : ∀ built, Built session shape.signature built → built.properties = shape.properties

/-- What is known of an answer. -/
structure WidensTo (session : Session) (registry : RegistryId) (base : Shape) (name : String)
    (shape : Shape) : Prop where
  reached : session.Reachable
  opened : session.world.HasRegistry registry
  published : session.world.space.Published shape
  from_published : session.world.space.Published base
  boxed : base.Widenable name → shape.signature = ShapeSpace.boxing name base.signature ∧
    shape.origin = session.world.space.root registry
  kept : ¬ base.Widenable name → shape = base

theorem Widened.answer (widened : Widened registry base name shape session) :
    session.WidensTo registry base name shape := by
  induction widened with
  | @answered session reached admitted answered =>
    have space := reached.sound.space
    have grown := space.widen admitted.1 admitted.2 name
    have evolves := evolves_after reached.sound admitted
    obtain ⟨opened, root⟩ := evolves.root_eq admitted.1
    obtain rfl : _ = shape := Reply.shape.inj answered
    refine ⟨reached.after admitted, opened, grown.published, evolves.published admitted.2, ?_, ?_⟩
    · intro widenable
      rw [root]
      exact space.widen_of_widenable admitted.1 widenable
    · intro not
      exact congrArg Prod.fst (ShapeSpace.widen_of_not_widenable not session.world.space registry)
  | @later session action before admitted ih =>
    have evolves := evolves_after ih.reached.sound admitted
    obtain ⟨opened, root⟩ := evolves.root_eq ih.opened
    refine ⟨ih.reached.after admitted, opened, evolves.published ih.published,
      evolves.published ih.from_published, ?_, ih.kept⟩
    rw [root]
    exact ih.boxed

namespace WidensTo

/-- **A widened name** is not widenable any more, and the others are as they were. -/
theorem widenable_iff (widens : session.WidensTo registry base name shape) :
    shape.Widenable other ↔ other ≠ name ∧ base.Widenable other := by
  by_cases widenable : base.Widenable name
  · exact Shape.widenable_of_boxing (widens.boxed widenable).1
  · rw [widens.kept widenable]
    refine (and_iff_right_of_imp ?_).symm
    rintro still rfl
    exact widenable still

theorem signature_eq (widens : session.WidensTo registry base name shape) :
    shape.signature =
      if base.Widenable name then ShapeSpace.boxing name base.signature else base.signature := by
  split
  · next widenable => exact (widens.boxed widenable).1
  · next not => rw [widens.kept not]

theorem origin_eq (widens : session.WidensTo registry base name shape) :
    shape.origin =
      if base.Widenable name then session.world.space.root registry else base.origin := by
  split
  · next widenable => exact (widens.boxed widenable).2
  · next not => rw [widens.kept not]

theorem laidBoxed (widens : session.WidensTo registry base name shape)
    (widenable : base.Widenable name) : session.LaidBoxed base name shape where
  entries := Shape.forall₂_reboxed (widens.boxed widenable).1
  direct built additions := by
    have sound := widens.reached.sound.space
    exact (sound.numbered built additions.published.2).properties_eq
      (sound.numbered shape widens.published) additions.signature_eq

/-- **Two names** are widened in either order. -/
theorem comm {a b : String} {first second third fourth : Shape}
    (widens_a : session.WidensTo registry base a first)
    (widens_ab : session.WidensTo registry first b second)
    (widens_b : session.WidensTo registry base b third)
    (widens_ba : session.WidensTo registry third a fourth) :
    second.same fourth = true := by
  rw [widens_a.reached.same_iff widens_ab.published widens_ba.published]
  simp only [widens_ab.origin_eq, widens_ba.origin_eq, widens_ab.signature_eq,
    widens_ba.signature_eq, widens_a.widenable_iff, widens_b.widenable_iff, widens_a.origin_eq,
    widens_b.origin_eq, widens_a.signature_eq, widens_b.signature_eq]
  -- Whatever is widenable is boxed in the end, and then the registry's empty shape is the origin.
  by_cases same : a = b
  · subst same
    simp
  · by_cases first : base.Widenable a <;> by_cases second : base.Widenable b <;>
      simp [first, second, same, Ne.symm same, ShapeSpace.boxing_comm a b]

end WidensTo

/-- **The law of widenings.** A registry answers whenever it is asked to widen a name. If the newest
slot of the name is primitive, the answer boxes the name and nothing else, in the slots of a shape
that is built so; otherwise it is the shape itself. To widen the name once more, through whatever
registry, changes nothing; and two names that one registry widens lead to one shape in either
order. -/
theorem widening_law (reached : session.Reachable) :
    (∀ registry base name, session.Admits (.widen registry base name) →
      ∃ shape, Widened registry base name shape (session.after (.widen registry base name))) ∧
    (∀ registry base name shape, Widened registry base name shape session →
      (base.Widenable name → session.LaidBoxed base name shape) ∧
        (¬ base.Widenable name → shape.same base = true)) ∧
    (∀ registry registry' base name shape again, Widened registry base name shape session →
      Widened registry' shape name again session → again.same shape = true) ∧
    ∀ registry base a b first second third fourth, Widened registry base a first session →
      Widened registry first b second session → Widened registry base b third session →
      Widened registry third a fourth session → second.same fourth = true := by
  have identical (shape : Shape) : shape.same shape = true := beq_self_eq_true shape.serial
  refine ⟨?_, ?_, ?_, ?_⟩
  · intro registry base name admitted
    exact ⟨_, .answered reached admitted rfl⟩
  · intro registry base name shape widened
    have widens := widened.answer
    refine ⟨widens.laidBoxed, fun not => ?_⟩
    rw [widens.kept not]
    exact identical base
  · intro registry registry' base name shape again widened repeated
    have not : ¬ shape.Widenable name := fun still => (widened.answer.widenable_iff.1 still).1 rfl
    rw [repeated.answer.kept not]
    exact identical shape
  · intro registry base a b first second third fourth widens_a widens_ab widens_b widens_ba
    exact widens_a.answer.comm widens_ab.answer widens_b.answer widens_ba.answer

/-- Three slots of raw words, two of them of one name. -/
def doubledLayout : Shape :=
  (((Shape.empty 0).successor 1 1 "x" .int).successor 2 2 "y" .bool).successor 3 3 "x" .float

/-- The name that occurs twice is boxed. -/
def doubledBoxed : Shape :=
  (((Shape.empty 0).successor 4 4 "x" .boxed).successor 5 5 "y" .bool).successor 6 6 "x" .boxed

/-- The name in between is boxed. -/
def middleBoxed : Shape :=
  (((Shape.empty 0).successor 1 1 "x" .int).successor 9 9 "y" .boxed).successor 10 10 "x" .float

/-- A registry, and the three additions. -/
def stacked : List Action :=
  [.newRegistry, .withAttribute ⟨0⟩ (.empty 0) "x" .int,
    .withAttribute ⟨0⟩ ((Shape.empty 0).successor 1 1 "x" .int) "y" .bool,
    .withAttribute ⟨0⟩ (((Shape.empty 0).successor 1 1 "x" .int).successor 2 2 "y" .bool) "x"
      .float]

/-- Both names are widened, in either order. -/
def crosswise : List Action :=
  [.widen ⟨0⟩ doubledLayout "x", .widen ⟨0⟩ doubledBoxed "y", .widen ⟨0⟩ doubledLayout "y",
    .widen ⟨0⟩ middleBoxed "x"]

/-- Either order leads to one shape. On the way, the one name was boxed twice and the other one kept
its raw word. -/
theorem widening_law_of_crosswise :
    let session := (empty.run stacked).run crosswise
    session.LaidBoxed doubledLayout "x" doubledBoxed ∧
      ∃ second fourth, Widened ⟨0⟩ doubledBoxed "y" second session ∧
        Widened ⟨0⟩ middleBoxed "x" fourth session ∧ second.same fourth = true := by
  intro session
  have reached : (empty.run stacked).Reachable := ⟨stacked, by decide, rfl⟩
  have admitted : (empty.run stacked).AdmitsAll crosswise := by decide
  have reached_x := reached.after admitted.1
  have reached_xy := reached_x.after admitted.2.1
  have reached_y := reached_xy.after admitted.2.2.1
  have widened_x : Widened ⟨0⟩ doubledLayout "x" doubledBoxed _ := .answered reached admitted.1 rfl
  have widened_xy := Widened.answered reached_x admitted.2.1 rfl
  have widened_y : Widened ⟨0⟩ doubledLayout "y" middleBoxed _ :=
    .answered reached_xy admitted.2.2.1 rfl
  have widened_yx := Widened.answered reached_y admitted.2.2.2.1 rfl
  have now_x := ((widened_x.later admitted.2.1).later admitted.2.2.1).later admitted.2.2.2.1
  have now_xy := (widened_xy.later admitted.2.2.1).later admitted.2.2.2.1
  have now_y := widened_y.later admitted.2.2.2.1
  obtain ⟨-, law, -, commute⟩ := widening_law (reached.run admitted)
  obtain ⟨boxes, -⟩ := law _ _ _ _ now_x
  exact ⟨boxes ⟨⟨.float, 2⟩, rfl, rfl⟩, _, _, now_xy, widened_yx,
    commute _ _ _ _ _ _ _ _ now_x now_xy now_y widened_yx⟩

end Session

end InlineCache
