import InlineCache.Proofs.Session.Growth
import InlineCache.Proofs.Shape.Numbering

/-!
# Shapes built by additions

A client builds a shape by additions to an empty one, whatever else it does in between. The shape
lists what was added, in the order of the additions, and its slots are numbered in that order.

## Main definitions

* `Session.Built`: a client came to a shape from an empty one by a list of additions

## Main results

* `Built.signature_eq`: the shape lists the names and kinds that were added
* `slots_number_additions`: how its slots are numbered, and found
-/

namespace InlineCache

namespace Session

variable {session : Session} {shape : Shape} {additions : List (String × Kind)}

/-- By additions of these names and kinds, through whatever registries, the client came from an
empty shape to this one. In between it did whatever it liked. -/
inductive Built : Session → List (String × Kind) → Shape → Prop where
  /-- Nothing was added to an empty shape. -/
  | root {session : Session} {shape : Shape} (reached : session.Reachable)
    (published : session.world.space.Published shape) (empty : shape.isEmpty = true) :
    Built session [] shape
  /-- The answer to one addition more. -/
  | addition {session : Session} {additions : List (String × Kind)} {base shape : Shape}
    {registry : RegistryId} {name : String} {kind : Kind} (before : Built session additions base)
    (opened : session.world.HasRegistry registry)
    (answered : (session.perform (.withAttribute registry base name kind)).answer = .shape shape) :
    Built (session.after (.withAttribute registry base name kind)) (additions ++ [(name, kind)])
      shape
  /-- Something else happened. -/
  | later {session : Session} {additions : List (String × Kind)} {shape : Shape} {action : Action}
    (before : Built session additions shape) (admitted : session.Admits action) :
    Built (session.after action) additions shape

/-- A shape that was built is published. -/
theorem Built.published (built : Built session additions shape) :
    session.Reachable ∧ session.world.space.Published shape := by
  induction built with
  | root reached published empty => exact ⟨reached, published⟩
  | addition before opened answered ih =>
    obtain ⟨reached, published⟩ := ih
    cases answered
    exact ⟨reached.after ⟨opened, published⟩,
      (reached.sound.space.withAttribute opened published _ _).1.published⟩
  | later before admitted ih =>
    obtain ⟨reached, published⟩ := ih
    exact ⟨reached.after admitted,
      (grows_after reached.sound admitted).ext.space.published _ published⟩

/-- **The shape lists what was added.** -/
theorem Built.signature_eq (built : Built session additions shape) :
    shape.signature = additions := by
  induction built with
  | root reached published empty =>
    obtain ⟨serial, rfl⟩ := reached.sound.space.empty_of_id _ published
      (by simpa [Shape.isEmpty] using empty)
    rfl
  | @addition session additions base shape registry name kind before opened answered ih =>
    obtain ⟨reached, published⟩ := before.published
    obtain ⟨-, serial, id, successor⟩ :=
      reached.sound.space.withAttribute opened published name kind
    obtain rfl : _ = shape := Reply.shape.inj answered
    rw [← ih, ← Shape.signature_successor base serial id name kind, ← successor]
    rfl
  | later before admitted ih => exact ih

/-- **Slots number the additions.** Every published shape numbers the slots of each bank from zero
on, in the order of its properties, and a lookup finds the last property of a name. Of a shape that
was built by additions these are the names and kinds that were added, in that order, however often
a name was added. -/
theorem slots_number_additions (reached : session.Reachable) :
    (∀ shape, session.world.space.Published shape → shape.Counted) ∧
      ∀ additions shape, Built session additions shape →
        shape.Counted ∧ shape.signature = additions ∧
          shape.names = additions.map Prod.fst := by
  have counted : ∀ shape, session.world.space.Published shape → shape.Counted :=
    fun shape published => (reached.sound.space.numbered shape published).counted
  refine ⟨counted, fun additions shape built => ?_⟩
  have signature := built.signature_eq
  refine ⟨counted shape built.published.2, signature, ?_⟩
  rw [Shape.names_eq_map_signature, signature]

/-- An integer, and a boxed attribute beside it that was added through another registry. -/
def mixedLayout : Shape := ((Shape.empty 0).successor 2 1 "x" .int).successor 3 1 "y" .boxed

/-- The first name was added again, as a float. -/
def repeatedLayout : Shape := mixedLayout.successor 5 2 "x" .float

/-- The additions, with an empty shape published in between. -/
def repeating : List Action :=
  [.newRegistry, .newRegistry, .withAttribute ⟨0⟩ (.empty 0) "x" .int,
    .withAttribute ⟨1⟩ ((Shape.empty 0).successor 2 1 "x" .int) "y" .boxed, .publishRoot,
    .withAttribute ⟨0⟩ mixedLayout "x" .float]

/-- The name is listed twice. Its newest slot is the second one of the raw words, after that of the
integer. -/
theorem slots_number_additions_of_repeating :
    repeatedLayout.names = ["x", "y", "x"] ∧ repeatedLayout.find? "x" = some ⟨.float, 1⟩ ∧
      repeatedLayout.size = 3 := by
  have reached : (empty.run repeating).Reachable := ⟨repeating, by decide, rfl⟩
  have built : Built (empty.run repeating) [("x", .int), ("y", .boxed), ("x", .float)]
      repeatedLayout := by
    have opened : (empty.run [.newRegistry, .newRegistry]).Reachable :=
      ⟨[.newRegistry, .newRegistry], by decide, rfl⟩
    have root : Built _ [] (.empty 0) := .root opened (by decide) rfl
    have integer : Built (empty.run (repeating.take 3)) [("x", .int)]
        ((Shape.empty 0).successor 2 1 "x" .int) := .addition root (by decide) rfl
    have mixed : Built (empty.run (repeating.take 4)) [("x", .int), ("y", .boxed)] mixedLayout :=
      .addition integer (by decide) rfl
    have between : Built (empty.run (repeating.take 5)) _ mixedLayout := .later mixed trivial
    exact .addition between (by decide) rfl
  obtain ⟨-, listed⟩ := slots_number_additions reached
  obtain ⟨counted, -, names⟩ := listed _ _ built
  have newest := (counted.found "x" ⟨.float, 1⟩).2
    ⟨[⟨"x", ⟨.int, 0⟩⟩, ⟨"y", ⟨.boxed, 0⟩⟩], [], rfl, fun _ none => nomatch none⟩
  exact ⟨names, newest, counted.size_eq_length⟩

end Session

end InlineCache
