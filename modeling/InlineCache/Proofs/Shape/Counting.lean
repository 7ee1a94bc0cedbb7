import InlineCache.Proofs.Shape.Canonical

/-!
# Registries count their shapes

A registry numbers the shapes that it publishes, and the next number is the count of its shapes. If
no other registry extends its shapes, and it extends no others, then the shapes that transitions
lead to from its empty shape are numbered without a gap and without repetition, and a shape comes
after its parent.

Transitions lead from an empty shape to whatever was laid out from it and published. So the numbers
are followed on the published shapes of one origin, where a publication adds one shape or none.

## Main definitions

* `ShapeSpace.Leads`, `ShapeSpace.Reaches`: one transition, and any number of them
* `Shape.Consecutive`: the shapes are numbered from zero on, parents before children
* `ShapeSpace.Counts`: what the count of a registry says
* `ShapeSpace.Tallied`: the invariant, on the published shapes of the registry's origin

## Main results

* `Sound.reaches_iff`: transitions reach the published shapes of an origin
* `Tallied.publish`: a publication on the right side keeps the invariant
* `Tallied.withAttribute`, `Tallied.widen`: so do the operations
* `Sound.tallied_newRegistry`: the invariant holds of a registry that was just opened
* `Tallied.counts`: the count is right
-/

namespace InlineCache

open Relation (ReflTransGen)

namespace Shape

variable {shapes : Shape → Prop} {count : Nat}

/-- The shapes are numbered from zero up to the count: each number is that of exactly one shape, and
a shape has a greater number than its parent. -/
structure Consecutive (shapes : Shape → Prop) (count : Nat) : Prop where
  distinct : ∀ a b, shapes a → shapes b → a.id = b.id → a = b
  lt_iff : ∀ i, i < count ↔ ∃ shape, shapes shape ∧ shape.id = i
  parent_lt : ∀ shape parent, shapes shape → shape.parent? = some parent → parent.id < shape.id

/-- An empty shape alone. -/
theorem consecutive_empty (serial : Nat) : Consecutive (· = empty serial) 1 where
  distinct := by
    rintro _ _ rfl rfl -
    rfl
  lt_iff i := by
    rw [Nat.lt_one_iff]
    constructor
    · rintro rfl
      exact ⟨empty serial, rfl, rfl⟩
    · rintro ⟨_, rfl, rfl⟩
      rfl
  parent_lt := by
    rintro _ parent rfl ⟨⟩

/-- **The next number** goes to a child of one of the shapes. -/
theorem Consecutive.insert (consecutive : Consecutive shapes count) {base target : Shape}
    (there : shapes base) (child : target.parent? = some base) (new : target.id = count) :
    Consecutive (fun shape => shapes shape ∨ shape = target) (count + 1) := by
  have lt {shape : Shape} (h : shapes shape) : shape.id < count :=
    (consecutive.lt_iff shape.id).2 ⟨shape, h, rfl⟩
  constructor
  · rintro a b (ha | rfl) (hb | rfl) same
    · exact consecutive.distinct a b ha hb same
    · exact absurd (same.trans new) (Nat.ne_of_lt (lt ha))
    · exact absurd (same.symm.trans new) (Nat.ne_of_lt (lt hb))
    · rfl
  · intro i
    rw [Nat.lt_succ_iff_lt_or_eq, consecutive.lt_iff]
    constructor
    · rintro (⟨shape, h, rfl⟩ | rfl)
      · exact ⟨shape, .inl h, rfl⟩
      · exact ⟨_, .inr rfl, new⟩
    · rintro ⟨shape, h | rfl, rfl⟩
      · exact .inl ⟨shape, h, rfl⟩
      · exact .inr new
  · rintro shape parent (h | rfl) above
    · exact consecutive.parent_lt shape parent h above
    · obtain rfl : base = parent := Option.some.inj (child.symm.trans above)
      exact new ▸ lt there

end Shape

namespace ShapeSpace

variable {space : ShapeSpace} {registry through other : RegistryId} {base shape target : Shape}
  {name : String} {kind : Kind}

/-! ## What transitions reach -/

/-- A transition leads from the one shape to the other. -/
def Leads (space : ShapeSpace) (base target : Shape) : Prop :=
  ∃ name kind, space.transition? base name kind = some target

/-- Transitions lead from the one shape to the other. -/
def Reaches (space : ShapeSpace) : Shape → Shape → Prop := ReflTransGen space.Leads

/-- The shape is published, and was laid out from the empty shape of the registry. -/
def Owns (space : ShapeSpace) (registry : RegistryId) (shape : Shape) : Prop :=
  space.Published shape ∧ shape.origin = space.root registry

theorem Sound.owns_root (sound : space.Sound) (opened : registry.index < space.registries.size) :
    space.Owns registry (space.root registry) := by
  obtain ⟨published, serial, root⟩ := sound.root registry opened
  exact ⟨published, by rw [root, Shape.origin_empty]⟩

/-- **Transitions reach the published shapes of an origin**, and no others. -/
theorem Sound.reaches_iff (sound : space.Sound) (linked : space.Linked)
    (opened : registry.index < space.registries.size) :
    space.Reaches (space.root registry) shape ↔ space.Owns registry shape := by
  constructor
  · intro reaches
    induction reaches with
    | refl => exact sound.owns_root opened
    | tail _ leads ih =>
      obtain ⟨name, kind, found⟩ := leads
      obtain ⟨published, origin⟩ := ih
      obtain ⟨there, serial, id, rfl⟩ := sound.of_transition? published found
      exact ⟨there, origin⟩
  · rintro ⟨published, origin⟩
    induction shape with
    | empty serial =>
      rw [← origin, Shape.origin_empty]
      exact .refl
    | extend parent serial id name kind slots ih =>
      obtain ⟨there, found⟩ := linked _ _ _ _ _ _ published
      exact (ih there origin).tail ⟨name, kind, found⟩

/-- The origin of a published shape is published. -/
theorem Linked.published_origin (linked : space.Linked) (published : space.Published shape) :
    space.Published shape.origin := by
  induction shape with
  | empty serial => exact published
  | extend parent serial id name kind slots ih =>
    exact ih (linked _ _ _ _ _ _ published).1

/-! ## Counts -/

/-- What the count of a registry says: the shapes that transitions lead to from its empty shape are
numbered from zero up to the count, parents before children; and an addition raises the count by one
if there is no transition for it yet, and leaves the count alone otherwise. -/
structure Counts (space : ShapeSpace) (registry : RegistryId) : Prop where
  consecutive : Shape.Consecutive (space.Reaches (space.root registry)) (space.shapeCount registry)
  raised : ∀ base name kind,
    (space.withAttribute registry base name kind).2.shapeCount registry =
        space.shapeCount registry + 1 ↔ space.transition? base name kind = none
  kept : ∀ base name kind, space.transition? base name kind ≠ none →
    (space.withAttribute registry base name kind).2.shapeCount registry =
      space.shapeCount registry

/-- A publication counts for the registry that published. -/
theorem shapeCount_publish (opened : registry.index < space.registries.size) (through : RegistryId)
    (base : Shape) (name : String) (kind : Kind) :
    (space.publish through base name kind).2.shapeCount registry =
      space.shapeCount registry + if through = registry then 1 else 0 := by
  have index : through.index = registry.index ↔ through = registry := by
    cases through
    cases registry
    simp
  simp only [shapeCount, publish, Array.getD_eq_getD_getElem?, Array.getElem?_modify, index]
  rw [Array.getElem?_eq_getElem opened]
  split <;> simp

/-- **An addition** raises the count if there is no transition for it. -/
theorem shapeCount_withAttribute (opened : registry.index < space.registries.size) (base : Shape)
    (name : String) (kind : Kind) :
    (space.withAttribute registry base name kind).2.shapeCount registry =
      space.shapeCount registry + if space.transition? base name kind = none then 1 else 0 := by
  unfold withAttribute
  cases found : space.transition? base name kind with
  | none => rw [if_pos rfl, shapeCount_publish opened, if_pos rfl]
  | some target => rw [if_neg (Option.some_ne_none target), Nat.add_zero]

/-! ## The invariant -/

/-- The published shapes that were laid out from the empty shape of the registry are numbered up to
its count, and the empty shape is no other registry's. -/
structure Tallied (space : ShapeSpace) (registry : RegistryId) : Prop where
  opened : registry.index < space.registries.size
  sole : ∀ other : RegistryId, other.index < space.registries.size →
    space.root other = space.root registry → other = registry
  consecutive : Shape.Consecutive (space.Owns registry) (space.shapeCount registry)

/-- **The count is right.** -/
theorem Tallied.counts (tallied : space.Tallied registry) (sound : space.Sound)
    (linked : space.Linked) : space.Counts registry := by
  have reached : space.Reaches (space.root registry) = space.Owns registry :=
    funext fun _ => propext (sound.reaches_iff linked tallied.opened)
  refine ⟨reached ▸ tallied.consecutive, fun base name kind => ?_, fun base name kind found => ?_⟩
  · rw [shapeCount_withAttribute tallied.opened]
    split <;> simp_all
  · rw [shapeCount_withAttribute tallied.opened, if_neg found, Nat.add_zero]

/-- **A publication keeps the invariant** if it is made by the registry exactly when it extends a
shape of the registry. -/
theorem Tallied.publish (tallied : space.Tallied registry) (published : space.Published base)
    (apart : through = registry ↔ base.origin = space.root registry) (name : String)
    (kind : Kind) : (space.publish through base name kind).2.Tallied registry := by
  have size : (space.publish through base name kind).2.registries.size = space.registries.size := by
    simp [ShapeSpace.publish]
  have owns (shape : Shape) : (space.publish through base name kind).2.Owns registry shape ↔
      space.Owns registry shape ∨
        shape = (space.publish through base name kind).1 ∧ through = registry := by
    rw [Owns, Owns, published_publish_iff, root_publish, or_and_right, apart]
    refine or_congr_right (and_congr_right ?_)
    rintro rfl
    exact .rfl
  refine ⟨size ▸ tallied.opened, fun other h => ?_, ?_⟩
  · rw [root_publish, root_publish]
    exact tallied.sole other (size ▸ h)
  · rw [shapeCount_publish tallied.opened, funext fun shape => propext (owns shape)]
    by_cases own : through = registry
    · subst own
      have there : space.Owns through base := ⟨published, apart.1 rfl⟩
      simpa using tallied.consecutive.insert there rfl rfl
    · simpa [own] using tallied.consecutive

/-- An empty shape more is none of the registry's. -/
theorem Tallied.publishRoot (tallied : space.Tallied registry) (sound : space.Sound) :
    space.publishRoot.2.Tallied registry := by
  have owns : space.publishRoot.2.Owns registry = space.Owns registry := by
    funext shape
    refine propext (and_congr_left fun origin => ?_)
    rw [published_publishRoot_iff]
    refine or_iff_left ?_
    rintro rfl
    have old := (sound.root registry tallied.opened).1.serial_lt
    exact Nat.ne_of_lt old (congrArg Shape.serial origin).symm
  exact ⟨tallied.opened, tallied.sole, owns ▸ tallied.consecutive⟩

/-! ## Opening a registry -/

/-- The empty shape of a registry that was open is not the new one. -/
theorem Sound.root_ne_publishRoot (sound : space.Sound)
    (old : other.index < space.registries.size) : space.root other ≠ space.publishRoot.1 := by
  intro same
  have within := (sound.root other old).1.serial_lt
  rw [same] at within
  exact Nat.lt_irrefl _ within

/-- Another registry is opened. -/
theorem Tallied.newRegistry (tallied : space.Tallied registry) (sound : space.Sound) :
    space.newRegistry.2.Tallied registry := by
  have root := root_newRegistry_of_lt tallied.opened
  have size : space.newRegistry.2.registries.size = space.registries.size + 1 := by
    simp [ShapeSpace.newRegistry, ShapeSpace.publishRoot]
  have owns : space.newRegistry.2.Owns registry = space.publishRoot.2.Owns registry := by
    funext shape
    exact propext (and_congr_right fun _ => by rw [root]; rfl)
  refine ⟨size ▸ Nat.lt_succ_of_lt tallied.opened, fun other h same => ?_, ?_⟩
  · rw [root] at same
    rcases lt_or_eq_newRegistry h with old | rfl
    · exact tallied.sole other old (root_newRegistry_of_lt old ▸ same)
    · rw [root_newRegistry_self] at same
      exact absurd same.symm (sound.root_ne_publishRoot tallied.opened)
  · rw [shapeCount_newRegistry_of_lt tallied.opened, owns]
    exact (tallied.publishRoot sound).consecutive

/-- **A registry that was just opened** has one shape, the empty one. -/
theorem Sound.tallied_newRegistry (sound : space.Sound) (linked : space.Linked) :
    space.newRegistry.2.Tallied space.newRegistry.1 := by
  have root := root_newRegistry_self space
  have owns : space.newRegistry.2.Owns space.newRegistry.1 = (· = space.publishRoot.1) := by
    funext shape
    rw [Owns, root]
    refine propext ⟨?_, ?_⟩
    · rintro ⟨published, origin⟩
      refine ((published_publishRoot_iff space shape).1 published).resolve_left fun old => ?_
      have within := (linked.published_origin old).serial_lt
      rw [origin] at within
      exact Nat.lt_irrefl _ within
    · rintro rfl
      exact ⟨(published_publishRoot_iff space _).2 (.inr rfl), rfl⟩
  refine ⟨by simp [ShapeSpace.newRegistry, ShapeSpace.publishRoot], fun other h same => ?_, ?_⟩
  · rw [root] at same
    rcases lt_or_eq_newRegistry h with old | new
    · exact absurd (root_newRegistry_of_lt old ▸ same) (sound.root_ne_publishRoot old)
    · exact new
  · rw [shapeCount_newRegistry_self, owns]
    exact Shape.consecutive_empty _

/-! ## Operations -/

theorem Tallied.withAttribute (tallied : space.Tallied registry) (published : space.Published base)
    (apart : through = registry ↔ base.origin = space.root registry) (name : String)
    (kind : Kind) : (space.withAttribute through base name kind).2.Tallied registry := by
  unfold ShapeSpace.withAttribute
  split
  · exact tallied
  · exact tallied.publish published apart name kind

theorem Tallied.layOut (tallied : space.Tallied registry) (sound : space.Sound)
    (opened : through.index < space.registries.size) (published : space.Published base)
    (apart : through = registry ↔ base.origin = space.root registry)
    (signature : List (String × Kind)) :
    (space.layOut through base signature).2.Tallied registry := by
  induction signature generalizing space base with
  | nil => exact tallied
  | cons entry rest ih =>
    obtain ⟨name, kind⟩ := entry
    have grown := (sound.withAttribute opened published name kind).1
    have root := ((evolves_withAttribute published through name kind).root_eq tallied.opened).2
    have apart' : through = registry ↔ (space.withAttribute through base name kind).1.origin =
        (space.withAttribute through base name kind).2.root registry := by
      rw [sound.origin_withAttribute opened published, root, apart]
    exact ih (tallied.withAttribute published apart name kind) grown.sound
      (Nat.lt_of_lt_of_le opened grown.ext.registries) grown.published apart'

/-- Whoever widens builds on its own empty shape. -/
theorem Tallied.widen (tallied : space.Tallied registry) (sound : space.Sound)
    (opened : through.index < space.registries.size) (base : Shape) (name : String) :
    (space.widen through base name).2.Tallied registry := by
  obtain ⟨published, own⟩ := sound.owns_root opened
  have apart : through = registry ↔ (space.root through).origin = space.root registry := by
    rw [own]
    constructor
    · rintro rfl
      rfl
    · exact tallied.sole through opened
  unfold ShapeSpace.widen
  split
  · split
    · exact tallied.layOut sound opened published apart _
    · exact tallied
  · exact tallied

end ShapeSpace

end InlineCache
