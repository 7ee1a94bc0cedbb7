import InlineCache.Proofs.Store.Kinds

/-!
# Writes are retraced

A transition that was followed or published once is there for ever, and so is each of those that
laid out a widening. So a write leads a store to the shape that an equal write led another store of
the same shape to, however the space of shapes grew in between, and it publishes nothing: only the
kind of the value matters to the layout.

## Main definitions

* `ShapeSpace.Request`: the layout side of a write
* `ShapeSpace.Paved`: what a write does to the layout from now on
* `ShapeSpace.PavedAlong`: what a run of writes does

## Main results

* `withAttribute_retraced`, `Sound.layOut_retraced`, `Sound.widen_retraced`: what was handed out is
  handed out again, and nothing is published
* `Sound.paved_set`: a write paves the way for those that are equal to it
* `PavedAlong.evolves`: what is paved stays paved
-/

namespace InlineCache

/-- The space that a write leaves. -/
theorem AttributeStore.space_set (store : AttributeStore) (space : ShapeSpace)
    (registry : RegistryId) (name : String) (value : Value) :
    (store.set space registry name value).space =
      match store.location? name with
      | none => (space.withAttribute registry store.shape name value.kind).2
      | some location =>
        if location.kind.accepts value.kind then space
        else (space.widen registry store.shape name).2 := by
  unfold set
  cases store.location? name with
  | none => rfl
  | some location =>
    dsimp only
    split <;> rfl

namespace ShapeSpace

variable {space later : ShapeSpace} {registry : RegistryId} {base target : Shape} {name : String}
  {kind : Kind}

/-! ## Layouts -/

/-- **An addition is made once.** -/
theorem withAttribute_retraced (published : space.Published base)
    (evolves : (space.withAttribute registry base name kind).2.Evolves later) (other : RegistryId) :
    later.withAttribute other base name kind =
      ((space.withAttribute registry base name kind).1, later) := by
  have found := evolves.transition?_eq (transition?_withAttribute published registry name kind)
  exact withAttribute_of_transition found other

section Sound

variable (sound : space.Sound) (opened : registry.index < space.registries.size)

include sound opened

/-- A signature is laid out once: each of its additions is. -/
theorem Sound.layOut_retraced (published : space.Published base) {signature : List (String × Kind)}
    (evolves : (space.layOut registry base signature).2.Evolves later) (other : RegistryId) :
    later.layOut other base signature = ((space.layOut registry base signature).1, later) := by
  induction signature generalizing space base with
  | nil => rfl
  | cons entry rest ih =>
    obtain ⟨name, kind⟩ := entry
    have grown := (sound.withAttribute opened published name kind).1
    have opened' := Nat.lt_of_lt_of_le opened grown.ext.registries
    -- the later space has the first addition, since it has all that follows
    have onward : (space.withAttribute registry base name kind).2.Evolves later :=
      (grown.sound.evolves_layOut opened' grown.published rest).1.trans evolves
    rw [ShapeSpace.layOut, withAttribute_retraced published onward other]
    exact ih grown.sound opened' grown.published evolves

/-- **A widening is made once**, with all the layouts on the way to it. -/
theorem Sound.widen_retraced (evolves : (space.widen registry base name).2.Evolves later) :
    later.widen registry base name = ((space.widen registry base name).1, later) := by
  have onward : space.Evolves later := (sound.evolves_widen opened base name).trans evolves
  have root := (onward.root_eq opened).2
  unfold ShapeSpace.widen at evolves ⊢
  cases found : base.find? name with
  | none => rfl
  | some location =>
    rw [found] at evolves
    dsimp only at evolves ⊢
    by_cases primitive : location.kind.isPrimitive = true
    · rw [if_pos primitive] at evolves
      rw [if_pos primitive, if_pos primitive, root]
      exact sound.layOut_retraced opened (sound.root registry opened).1 evolves registry
    · rw [if_neg primitive, if_neg primitive]

end Sound

/-! ## Writes -/

/-- The layout side of a write: through which registry it goes, the name and the kind of the
value. -/
structure Request where
  /-- The registry. -/
  registry : RegistryId
  /-- The name. -/
  name : String
  /-- The kind of the value. -/
  kind : Kind
  deriving DecidableEq

/-- From now on the writes that make this request of a store laid out by `base` have this outcome,
leave the store laid out by `target`, and publish nothing. -/
def Paved (space : ShapeSpace) (base : Shape) (request : Request) (outcome : WriteOutcome)
    (target : Shape) : Prop :=
  ∀ later, space.Evolves later → ∀ (store : AttributeStore) (value : Value), store.shape = base →
    value.kind = request.kind →
    (store.set later request.registry request.name value).outcome = outcome ∧
      (store.set later request.registry request.name value).store.shape = target ∧
      (store.set later request.registry request.name value).space = later

/-- From now on a run of writes that make these requests, one after the other, of a store laid out
by the shape has these outcomes, leaves the store laid out by these shapes, and publishes
nothing. -/
inductive PavedAlong (space : ShapeSpace) :
    Shape → List Request → List (WriteOutcome × Shape) → Prop where
  /-- No write. -/
  | nil (base : Shape) : PavedAlong space base [] []
  /-- One write, and those after it. -/
  | cons {base target : Shape} {request : Request} {outcome : WriteOutcome}
    {requests : List Request} {course : List (WriteOutcome × Shape)}
    (first : space.Paved base request outcome target)
    (rest : PavedAlong space target requests course) :
    PavedAlong space base (request :: requests) ((outcome, target) :: course)

/-- What is paved stays paved. -/
theorem PavedAlong.evolves {requests : List Request} {course : List (WriteOutcome × Shape)}
    (paved : space.PavedAlong base requests course) (evolves : space.Evolves later) :
    later.PavedAlong base requests course := by
  induction paved with
  | nil base => exact .nil base
  | cons first _ ih => exact .cons (fun last onward => first last (evolves.trans onward)) ih

/-- **A write paves the way** for those that make the same request of a store of the same shape. -/
theorem Sound.paved_set (sound : space.Sound) (opened : registry.index < space.registries.size)
    {store : AttributeStore} (published : space.Published store.shape) (name : String)
    (value : Value) :
    (store.set space registry name value).space.Paved store.shape ⟨registry, name, value.kind⟩
      (store.set space registry name value).outcome
      (store.set space registry name value).store.shape := by
  intro later evolves other value' shape kind
  dsimp only at kind ⊢
  have location : other.location? name = store.location? name :=
    congrArg (·.find? name) shape
  rw [AttributeStore.space_set] at evolves
  rw [AttributeStore.set_outcome, AttributeStore.set_outcome, AttributeStore.shape_set,
    AttributeStore.shape_set, AttributeStore.space_set, location, shape, kind]
  cases found : store.location? name with
  | none =>
    rw [found] at evolves
    dsimp only at evolves ⊢
    rw [withAttribute_retraced published evolves registry]
    exact ⟨rfl, rfl, rfl⟩
  | some location =>
    rw [found] at evolves
    dsimp only at evolves ⊢
    by_cases accepts : location.kind.accepts value.kind = true
    · simp only [if_pos accepts, and_self]
    · rw [if_neg accepts] at evolves
      rw [sound.widen_retraced opened evolves]
      simp only [if_neg accepts, and_self]

end ShapeSpace

end InlineCache
