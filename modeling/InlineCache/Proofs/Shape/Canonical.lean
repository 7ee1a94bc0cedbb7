import InlineCache.Proofs.Shape.Publication
import Mathlib.Logic.Relation

/-!
# Published layouts are canonical

The shapes laid out from one empty shape are a trie: a successor is published only if the
transition to it is missing, and from then on it is what the transition leads to. So a shape is
found again by following its names and kinds from the empty shape that it was laid out from, and no
two shapes of one origin have the same names and kinds.

Every operation on a space is a sequence of publications, each of one shape. What one publication
keeps, the operations keep.

## Main definitions

* `Shape.origin`: the empty shape at the beginning of a shape
* `ShapeSpace.Publishes`, `ShapeSpace.Evolves`: one publication, and any number of them
* `ShapeSpace.Linked`: every published successor is reached by a transition of its parent

## Main results

* `Evolves.transition?_eq`: a transition that is there stays
* `Evolves.linked`: publications keep a space linked
* `Linked.eq_of_signature_eq`: origin, names and kinds determine a published shape
* `evolves_withAttribute`, `Sound.evolves_widen`: operations are sequences of publications
-/

namespace InlineCache

namespace Shape

/-- The empty shape that a shape was laid out from. -/
def origin : Shape → Shape
  | empty serial => empty serial
  | extend parent _ _ _ _ _ => parent.origin

@[simp] theorem origin_empty (serial : Nat) : (empty serial).origin = empty serial := rfl

@[simp] theorem origin_successor (parent : Shape) (serial id : Nat) (name : String) (kind : Kind) :
    (parent.successor serial id name kind).origin = parent.origin := rfl

theorem origin_eq_of_signature_eq_nil {shape : Shape} (h : shape.signature = []) :
    shape.origin = shape := by
  cases shape with
  | empty serial => rfl
  | extend parent serial id name kind slots => simp at h

end Shape

namespace ShapeSpace

variable {space later : ShapeSpace} {registry : RegistryId} {base shape target : Shape}
  {name : String} {kind : Kind}

/-! ## Transitions -/

theorem transitionsOf_publishRoot (space : ShapeSpace) (shape : Shape) :
    space.publishRoot.2.transitionsOf shape = space.transitionsOf shape := by
  by_cases new : shape.serial = space.publications.size
  · rw [transitionsOf_of_size_le (Nat.le_of_eq new.symm)]
    simp [transitionsOf, publishRoot, new]
  · simp [transitionsOf, publishRoot, Array.getElem?_push, new]

/-- Only the base gets a transition, the one to its new successor. -/
theorem transitionsOf_publish (published : space.Published base) (registry : RegistryId)
    (name : String) (kind : Kind) (shape : Shape) :
    (space.publish registry base name kind).2.transitionsOf shape =
      if shape.serial = base.serial then
        ⟨name, kind, (space.publish registry base name kind).1⟩ :: space.transitionsOf shape
      else space.transitionsOf shape := by
  have within := published.serial_lt
  simp only [transitionsOf, publish, Array.getD_eq_getD_getElem?, Array.getElem?_push,
    Array.size_modify, Array.getElem?_modify]
  by_cases same : shape.serial = base.serial
  · have old : base.serial ≠ space.publications.size := Nat.ne_of_lt within
    simp [same, old, Array.getElem?_eq_getElem within]
  · by_cases new : shape.serial = space.publications.size
    · rw [if_pos new, if_neg same, Array.getElem?_eq_none (Nat.le_of_eq new.symm)]
      rfl
    · rw [if_neg new, if_neg same, if_neg (Ne.symm same)]

/-- The transition that was published is found, and any other search finds what it found before. -/
theorem transition?_publish (published : space.Published base) (registry : RegistryId)
    (name : String) (kind : Kind) (shape : Shape) (name' : String) (kind' : Kind) :
    (space.publish registry base name kind).2.transition? shape name' kind' =
      if shape.serial = base.serial ∧ name = name' ∧ kind = kind' then
        some (space.publish registry base name kind).1
      else space.transition? shape name' kind' := by
  rw [transition?, transitionsOf_publish published]
  by_cases same : shape.serial = base.serial
  · rw [if_pos same, List.find?_cons]
    by_cases label : name = name' ∧ kind = kind'
    · simp [same, label]
    · simp [same, label, transition?]
  · simp [same, transition?]

/-! ## Publications -/

/-- One shape is published: an empty one, which a registry may own, or a missing successor. -/
inductive Publishes (space : ShapeSpace) : ShapeSpace → Prop where
  /-- An empty shape that no registry owns. -/
  | root : Publishes space space.publishRoot.2
  /-- The empty shape of a new registry. -/
  | registry : Publishes space space.newRegistry.2
  /-- A successor to which there is no transition yet. -/
  | successor {registry : RegistryId} {base : Shape} {name : String} {kind : Kind}
    (published : space.Published base) (missing : space.transition? base name kind = none) :
    Publishes space (space.publish registry base name kind).2

theorem Publishes.published (step : space.Publishes later) (h : space.Published shape) :
    later.Published shape := by
  cases step with
  | root => exact (published_publishRoot_iff space shape).2 (.inl h)
  | registry => exact (published_publishRoot_iff space shape).2 (.inl h)
  | successor _ _ => exact (published_publish_iff space _ _ _ _ shape).2 (.inl h)

/-- **A transition that is there stays**, since only missing ones are published. -/
theorem Publishes.transition?_eq (step : space.Publishes later)
    (h : space.transition? shape name kind = some target) :
    later.transition? shape name kind = some target := by
  cases step with
  | root => rw [← h, transition?, transitionsOf_publishRoot, transition?]
  | registry =>
    rw [← h]
    show space.publishRoot.2.transition? shape name kind = _
    rw [transition?, transitionsOf_publishRoot, transition?]
  | @successor registry base name' kind' published missing =>
    rw [transition?_publish published]
    by_cases replaced : shape.serial = base.serial ∧ name' = name ∧ kind' = kind
    · obtain ⟨serial, rfl, rfl⟩ := replaced
      rw [transition?, transitionsOf, serial, ← transitionsOf, ← transition?, missing] at h
      cases h
    · rw [if_neg replaced, h]

/-- A registry keeps its empty shape. -/
theorem Publishes.root_eq (step : space.Publishes later)
    (hr : registry.index < space.registries.size) :
    registry.index < later.registries.size ∧ later.root registry = space.root registry := by
  cases step with
  | root => exact ⟨hr, rfl⟩
  | registry =>
    have old : registry.index ≠ space.registries.size := Nat.ne_of_lt hr
    simp only [newRegistry, publishRoot, ShapeSpace.root, Array.size_push,
      Array.getD_eq_getD_getElem?, Array.getElem?_push, old, if_false]
    exact ⟨Nat.lt_succ_of_lt hr, trivial⟩
  | successor _ _ => exact ⟨by simpa [publish] using hr, root_publish ..⟩

/-- Every published successor has a published parent, and is what its transition leads to. -/
def Linked (space : ShapeSpace) : Prop :=
  ∀ parent serial id name kind slots, space.Published (.extend parent serial id name kind slots) →
    space.Published parent ∧
      space.transition? parent name kind = some (.extend parent serial id name kind slots)

theorem linked_empty : ShapeSpace.empty.Linked := by
  intro parent serial id name kind slots h
  simp [Published, ShapeSpace.empty] at h

/-- A publication keeps a space linked. -/
theorem Publishes.linked (step : space.Publishes later) (linked : space.Linked) :
    later.Linked := by
  have old {parent : Shape} {serial id : Nat} {name : String} {kind : Kind} {slots : SlotCounts}
      (h : space.Published (.extend parent serial id name kind slots)) :
      later.Published parent ∧
        later.transition? parent name kind = some (.extend parent serial id name kind slots) := by
    obtain ⟨published, found⟩ := linked _ _ _ _ _ _ h
    exact ⟨step.published published, step.transition?_eq found⟩
  intro parent serial id name kind slots h
  cases step with
  | root =>
    rcases (published_publishRoot_iff space _).1 h with h | new
    · exact old h
    · cases new
  | registry =>
    rcases (published_publishRoot_iff space _).1 h with h | new
    · exact old h
    · cases new
  | @successor registry base name' kind' published missing =>
    rcases (published_publish_iff space registry base name' kind' _).1 h with h | new
    · exact old h
    · have new' := new
      rw [publish, Shape.successor, Shape.extend.injEq] at new'
      obtain ⟨rfl, -, -, rfl, rfl, -⟩ := new'
      constructor
      · exact (published_publish_iff space registry _ _ _ _).2 (.inl published)
      · rw [transition?_publish published, if_pos ⟨rfl, rfl, rfl⟩, new]

/-- The later space came about by publications. -/
def Evolves : ShapeSpace → ShapeSpace → Prop := Relation.ReflTransGen Publishes

theorem Evolves.refl (space : ShapeSpace) : space.Evolves space := Relation.ReflTransGen.refl

theorem Evolves.published (evolves : space.Evolves later) (h : space.Published shape) :
    later.Published shape := by
  induction evolves with
  | refl => exact h
  | tail _ step ih => exact step.published ih

theorem Evolves.transition?_eq (evolves : space.Evolves later)
    (h : space.transition? shape name kind = some target) :
    later.transition? shape name kind = some target := by
  induction evolves with
  | refl => exact h
  | tail _ step ih => exact step.transition?_eq ih

theorem Evolves.root_eq (evolves : space.Evolves later)
    (hr : registry.index < space.registries.size) :
    registry.index < later.registries.size ∧ later.root registry = space.root registry := by
  induction evolves with
  | refl => exact ⟨hr, rfl⟩
  | tail _ step ih =>
    obtain ⟨there, same⟩ := ih
    obtain ⟨there, same'⟩ := step.root_eq there
    exact ⟨there, same'.trans same⟩

theorem Evolves.linked (evolves : space.Evolves later) (linked : space.Linked) :
    later.Linked := by
  induction evolves with
  | refl => exact linked
  | tail _ step ih => exact step.linked ih

/-! ## Canonical layouts -/

/-- **Origin, names and kinds determine a published shape.** -/
theorem Linked.eq_of_signature_eq (linked : space.Linked) {a b : Shape} (ha : space.Published a)
    (hb : space.Published b) (origin : a.origin = b.origin) (same : a.signature = b.signature) :
    a = b := by
  -- Induction on the one shape; the other one has as many properties.
  induction a generalizing b with
  | empty serial =>
    have root : b.origin = b := Shape.origin_eq_of_signature_eq_nil same.symm
    exact origin.trans root
  | extend parent serial id name kind slots ih =>
    cases b with
    | empty serial' => simp at same
    | extend parent' serial' id' name' kind' slots' =>
      obtain ⟨published, found⟩ := linked _ _ _ _ _ _ ha
      obtain ⟨published', found'⟩ := linked _ _ _ _ _ _ hb
      rw [Shape.signature_extend, Shape.signature_extend] at same
      obtain ⟨before, last⟩ := List.append_inj' same rfl
      obtain ⟨rfl, rfl⟩ : name = name' ∧ kind = kind' := by simpa using last
      obtain rfl : parent = parent' := ih published published' origin before
      exact Option.some.inj (found.symm.trans found')

/-! ## Operations -/

theorem evolves_withAttribute (published : space.Published base) (registry : RegistryId)
    (name : String) (kind : Kind) :
    space.Evolves (space.withAttribute registry base name kind).2 := by
  unfold withAttribute
  cases missing : space.transition? base name kind with
  | none => exact .single (.successor published missing)
  | some target => exact .refl _

/-- **An addition that was made is found again.** -/
theorem transition?_withAttribute (published : space.Published base) (registry : RegistryId)
    (name : String) (kind : Kind) :
    (space.withAttribute registry base name kind).2.transition? base name kind =
      some (space.withAttribute registry base name kind).1 := by
  unfold withAttribute
  cases missing : space.transition? base name kind with
  | none =>
    dsimp only
    rw [transition?_publish published, if_pos ⟨rfl, rfl, rfl⟩]
  | some target => exact missing

section Sound

variable (sound : space.Sound) (hr : registry.index < space.registries.size)

include sound hr

theorem Sound.origin_withAttribute (published : space.Published base) (name : String)
    (kind : Kind) : (space.withAttribute registry base name kind).1.origin = base.origin := by
  obtain ⟨-, serial, id, successor⟩ := sound.withAttribute hr published name kind
  rw [successor, Shape.origin_successor]

/-- Laying out a signature is a sequence of publications, which ends with a shape of the origin
that it began with. -/
theorem Sound.evolves_layOut (published : space.Published base) (signature : List (String × Kind)) :
    space.Evolves (space.layOut registry base signature).2 ∧
      (space.layOut registry base signature).1.origin = base.origin := by
  induction signature generalizing space base with
  | nil => exact ⟨.refl _, rfl⟩
  | cons entry rest ih =>
    obtain ⟨name, kind⟩ := entry
    have grown := (sound.withAttribute hr published name kind).1
    have origin := sound.origin_withAttribute hr published name kind
    obtain ⟨evolves, later⟩ :=
      ih grown.sound (Nat.lt_of_lt_of_le hr grown.ext.registries) grown.published
    constructor
    · exact (evolves_withAttribute published registry name kind).trans evolves
    · exact later.trans origin

theorem Sound.evolves_widen (base : Shape) (name : String) :
    space.Evolves (space.widen registry base name).2 := by
  have published := (sound.root registry hr).1
  unfold ShapeSpace.widen
  split
  · split
    · exact (sound.evolves_layOut hr published _).1
    · exact .refl _
  · exact .refl _

/-- A widening by the registry that owns the origin has the same origin. -/
theorem Sound.origin_widen (own : base.origin = space.root registry) (name : String) :
    (space.widen registry base name).1.origin = base.origin := by
  obtain ⟨published, serial, root⟩ := sound.root registry hr
  unfold ShapeSpace.widen
  split
  · split
    · rw [(sound.evolves_layOut hr published _).2, own, root, Shape.origin_empty]
    · rfl
  · rfl

end Sound

end ShapeSpace

end InlineCache
