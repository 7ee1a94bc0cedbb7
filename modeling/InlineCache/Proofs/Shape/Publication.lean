import InlineCache.Shape.Space

/-!
# The space of shapes grows soundly

Whatever a space publishes stays published, under its serial number, so published shapes with one
serial number are one shape. In a sound space the published shapes have the right counts, and
transitions lead to what their labels say. Every operation that hands out a shape keeps the space
sound and hands out a published one.

## Main definitions

* `ShapeSpace.Sound`: what holds of every space that a client can meet
* `ShapeSpace.Extends`: a later space has all that an earlier one published
* `ShapeSpace.Grows`: an operation extends a space soundly and hands out a published shape

## Main results

* `Published.eq_of_same`: identity of published shapes is equality
* `Sound.withAttribute`, `Sound.layOut`, `Sound.widen`: the operations grow a sound space
* `signature_layOut`, `signature_widen`: what they hand out
-/

namespace InlineCache

namespace ShapeSpace

/-- What holds of every space of published shapes: they have the right counts, only empty shapes
have the number zero, a transition leads to a published successor that adds what its label says, and
a registry has a published empty shape and gives positive numbers to others. -/
structure Sound (space : ShapeSpace) : Prop where
  numbered : ∀ shape, space.Published shape → shape.Numbered
  empty_of_id : ∀ shape, space.Published shape → shape.id = 0 → ∃ serial, shape = .empty serial
  target : ∀ base, space.Published base → ∀ t ∈ space.transitionsOf base,
    space.Published t.target ∧ ∃ serial id, t.target = base.successor serial id t.name t.kind
  root : ∀ registry : RegistryId, registry.index < space.registries.size →
    space.Published (space.root registry) ∧ ∃ serial, space.root registry = .empty serial
  shapeCount_pos : ∀ registry : RegistryId, registry.index < space.registries.size →
    0 < space.shapeCount registry

/-- The later space has whatever the earlier one published, and its registries. -/
structure Extends (space later : ShapeSpace) : Prop where
  published : ∀ shape, space.Published shape → later.Published shape
  registries : space.registries.size ≤ later.registries.size

theorem Extends.refl (space : ShapeSpace) : space.Extends space := ⟨fun _ h => h, Nat.le_refl _⟩

theorem Extends.trans {first second third : ShapeSpace} (h : first.Extends second)
    (k : second.Extends third) : first.Extends third :=
  ⟨fun shape hs => k.published shape (h.published shape hs), Nat.le_trans h.registries k.registries⟩

/-- The operation on `space` led to a sound extension and to a published shape. -/
structure Grows (space : ShapeSpace) (result : Shape × ShapeSpace) : Prop where
  sound : result.2.Sound
  ext : space.Extends result.2
  published : result.2.Published result.1

/-! ## Publishing -/

theorem Published.serial_lt {space : ShapeSpace} {shape : Shape} (h : space.Published shape) :
    shape.serial < space.publications.size := by
  unfold Published at h
  by_cases hlt : shape.serial < space.publications.size
  · exact hlt
  · simp [hlt] at h

/-- **Identity of published shapes is equality.** -/
theorem Published.eq_of_same {space : ShapeSpace} {a b : Shape} (ha : space.Published a)
    (hb : space.Published b) (h : a.same b = true) : a = b := by
  have serial : a.serial = b.serial := by simpa [Shape.same] using h
  unfold Published at ha hb
  rw [serial, hb] at ha
  exact (Option.some.inj ha).symm

/-- A fresh publication adds one shape and keeps the others. -/
theorem published_publish_iff (space : ShapeSpace) (registry : RegistryId) (base : Shape)
    (name : String) (kind : Kind) (shape : Shape) :
    (space.publish registry base name kind).2.Published shape ↔
      space.Published shape ∨ shape = (space.publish registry base name kind).1 := by
  simp only [Published, publish, Array.getElem?_push, Array.size_modify, Array.getElem?_modify]
  by_cases hs : shape.serial = space.publications.size
  · simp [hs, eq_comm]
  · have hne : shape ≠ base.successor space.publications.size (space.shapeCount registry) name
        kind := fun e => hs (by simp [e])
    by_cases hb : base.serial = shape.serial <;> simp [hs, hne, hb, Function.comp_def]

theorem published_publishRoot_iff (space : ShapeSpace) (shape : Shape) :
    space.publishRoot.2.Published shape ↔
      space.Published shape ∨ shape = space.publishRoot.1 := by
  simp only [Published, publishRoot, Array.getElem?_push]
  by_cases hs : shape.serial = space.publications.size
  · simp [hs, eq_comm]
  · have hne : shape ≠ .empty space.publications.size := fun e => hs (by simp [e, Shape.serial])
    simp [hs, hne]

/-- A shape beyond the published ones has no transitions. -/
theorem transitionsOf_of_size_le {space : ShapeSpace} {shape : Shape}
    (h : space.publications.size ≤ shape.serial) : space.transitionsOf shape = [] := by
  simp only [transitionsOf, Array.getD_eq_getD_getElem?, Array.getElem?_eq_none h]
  rfl

/-- The transitions after a publication are those before, and the one that was published. -/
theorem mem_transitionsOf_publish {space : ShapeSpace} {registry : RegistryId}
    {base shape : Shape} {name : String} {kind : Kind} {t : Transition}
    (h : t ∈ (space.publish registry base name kind).2.transitionsOf shape) :
    t ∈ space.transitionsOf shape ∨ shape.serial = base.serial ∧
      t = ⟨name, kind, (space.publish registry base name kind).1⟩ := by
  simp only [transitionsOf, publish, Array.getD_eq_getD_getElem?, Array.getElem?_push,
    Array.size_modify, Array.getElem?_modify] at h ⊢
  split at h
  · simp at h
  · split at h
    · next hb =>
      cases hp : space.publications[shape.serial]? with
      | none => exact .inl (by simpa [hp] using h)
      | some p =>
        simp only [hp, Option.map_some, Option.getD_some, List.mem_cons] at h
        rcases h with rfl | h
        · exact .inr ⟨hb.symm, rfl⟩
        · exact .inl (by simpa using h)
    · exact .inl h

/-! ## Operations -/

theorem Sound.publishRoot {space : ShapeSpace} (sound : space.Sound) :
    space.Grows space.publishRoot := by
  have old (shape : Shape) (h : space.Published shape) : space.publishRoot.2.Published shape :=
    (published_publishRoot_iff space shape).2 (.inl h)
  -- The new root has no transitions, and the other shapes have those that they had.
  have transitions (shape : Shape) {t : Transition}
      (h : t ∈ space.publishRoot.2.transitionsOf shape) : t ∈ space.transitionsOf shape := by
    simp only [transitionsOf, ShapeSpace.publishRoot, Array.getD_eq_getD_getElem?,
      Array.getElem?_push] at h ⊢
    split at h
    · simp at h
    · exact h
  refine ⟨⟨?_, ?_, ?_, ?_, sound.shapeCount_pos⟩, ⟨old, Nat.le_refl _⟩, ?_⟩
  · intro shape h
    rcases (published_publishRoot_iff space shape).1 h with h | rfl
    · exact sound.numbered shape h
    · trivial
  · intro shape h hid
    rcases (published_publishRoot_iff space shape).1 h with h | rfl
    · exact sound.empty_of_id shape h hid
    · exact ⟨_, rfl⟩
  · intro base h t ht
    have ht := transitions base ht
    rcases (published_publishRoot_iff space base).1 h with h | rfl
    · obtain ⟨published, successor⟩ := sound.target base h t ht
      exact ⟨old _ published, successor⟩
    · rw [transitionsOf_of_size_le (Nat.le_refl _)] at ht
      cases ht
  · intro registry h
    obtain ⟨published, empty⟩ := sound.root registry h
    exact ⟨old _ published, empty⟩
  · exact (published_publishRoot_iff space _).2 (.inr rfl)

/-- The registries that are open once another one is: those that were, and the new one. -/
theorem lt_or_eq_newRegistry {space : ShapeSpace} {registry : RegistryId}
    (h : registry.index < space.newRegistry.2.registries.size) :
    registry.index < space.registries.size ∨ registry = space.newRegistry.1 := by
  have index : registry.index < space.registries.size ∨
      registry.index = space.newRegistry.1.index := by
    simp only [ShapeSpace.newRegistry, ShapeSpace.publishRoot, Array.size_push] at h ⊢
    omega
  refine index.imp_right fun new => ?_
  cases registry
  exact congrArg RegistryId.mk new

theorem root_newRegistry_of_lt {space : ShapeSpace} {registry : RegistryId}
    (old : registry.index < space.registries.size) :
    space.newRegistry.2.root registry = space.root registry := by
  simp [root, ShapeSpace.newRegistry, ShapeSpace.publishRoot, Array.getElem?_push, Nat.ne_of_lt old]

theorem shapeCount_newRegistry_of_lt {space : ShapeSpace} {registry : RegistryId}
    (old : registry.index < space.registries.size) :
    space.newRegistry.2.shapeCount registry = space.shapeCount registry := by
  simp [shapeCount, ShapeSpace.newRegistry, ShapeSpace.publishRoot, Array.getElem?_push,
    Nat.ne_of_lt old]

theorem root_newRegistry_self (space : ShapeSpace) :
    space.newRegistry.2.root space.newRegistry.1 = space.publishRoot.1 := by
  simp [root, ShapeSpace.newRegistry, ShapeSpace.publishRoot]

theorem shapeCount_newRegistry_self (space : ShapeSpace) :
    space.newRegistry.2.shapeCount space.newRegistry.1 = 1 := by
  simp [shapeCount, ShapeSpace.newRegistry, ShapeSpace.publishRoot]

theorem Sound.newRegistry {space : ShapeSpace} (sound : space.Sound) :
    space.newRegistry.2.Sound ∧ space.Extends space.newRegistry.2 := by
  have grown := sound.publishRoot
  refine ⟨⟨grown.sound.numbered, grown.sound.empty_of_id, grown.sound.target, ?_, ?_⟩,
    ⟨grown.ext.published, by simp [ShapeSpace.newRegistry, ShapeSpace.publishRoot]⟩⟩
  · intro registry h
    rcases lt_or_eq_newRegistry h with old | rfl
    · rw [root_newRegistry_of_lt old]
      exact grown.sound.root registry old
    · rw [root_newRegistry_self]
      exact ⟨grown.published, _, rfl⟩
  · intro registry h
    rcases lt_or_eq_newRegistry h with old | rfl
    · rw [shapeCount_newRegistry_of_lt old]
      exact sound.shapeCount_pos registry old
    · rw [shapeCount_newRegistry_self]
      exact Nat.one_pos

theorem root_publish (space : ShapeSpace) (registry other : RegistryId) (base : Shape)
    (name : String) (kind : Kind) :
    (space.publish registry base name kind).2.root other = space.root other := by
  simp only [root, publish, Array.getD_eq_getD_getElem?, Array.getElem?_modify]
  split
  · cases space.registries[other.index]? <;> rfl
  · rfl

theorem Sound.publish {space : ShapeSpace} (sound : space.Sound) {registry : RegistryId}
    (hr : registry.index < space.registries.size) {base : Shape} (hb : space.Published base)
    (name : String) (kind : Kind) : space.Grows (space.publish registry base name kind) := by
  have iff := published_publish_iff space registry base name kind
  have old (shape : Shape) (h : space.Published shape) :
      (space.publish registry base name kind).2.Published shape := (iff shape).2 (.inl h)
  have new : (space.publish registry base name kind).2.Published
      (space.publish registry base name kind).1 := (iff _).2 (.inr rfl)
  refine ⟨⟨?_, ?_, ?_, ?_, ?_⟩, ⟨old, by simp [ShapeSpace.publish]⟩, new⟩
  · intro shape h
    rcases (iff shape).1 h with h | rfl
    · exact sound.numbered shape h
    · exact Shape.numbered_successor (sound.numbered base hb) ..
  · intro shape h hid
    rcases (iff shape).1 h with h | rfl
    · exact sound.empty_of_id shape h hid
    · have hpos := sound.shapeCount_pos registry hr
      simp only [ShapeSpace.publish, Shape.successor, Shape.id] at hid
      omega
  · intro shape h t ht
    rcases (iff shape).1 h with h | rfl
    · rcases mem_transitionsOf_publish ht with ht | ⟨serial, rfl⟩
      · obtain ⟨published, successor⟩ := sound.target shape h t ht
        exact ⟨old _ published, successor⟩
      · obtain rfl : shape = base := h.eq_of_same hb (by simp [Shape.same, serial])
        exact ⟨new, _, _, rfl⟩
    · have hlt := hb.serial_lt
      rcases mem_transitionsOf_publish ht with ht | ⟨serial, -⟩
      · rw [transitionsOf_of_size_le (Nat.le_refl _)] at ht
        cases ht
      · simp only [ShapeSpace.publish, Shape.serial_successor] at serial
        omega
  · intro other h
    rw [root_publish]
    obtain ⟨published, empty⟩ := sound.root other (by simpa [ShapeSpace.publish] using h)
    exact ⟨old _ published, empty⟩
  · intro other h
    have hpos := sound.shapeCount_pos other (by simpa [ShapeSpace.publish] using h)
    simp only [shapeCount, ShapeSpace.publish, Array.getD_eq_getD_getElem?,
      Array.getElem?_modify] at hpos ⊢
    split
    · cases hc : space.registries[other.index]? with
      | none => simpa [hc] using hpos
      | some r => simp
    · exact hpos

/-- A transition that is found leads to a published successor, which adds what was searched for. -/
theorem Sound.of_transition? {space : ShapeSpace} (sound : space.Sound) {base target : Shape}
    (published : space.Published base) {name : String} {kind : Kind}
    (found : space.transition? base name kind = some target) :
    space.Published target ∧ ∃ serial id, target = base.successor serial id name kind := by
  obtain ⟨t, search, rfl⟩ := Option.map_eq_some_iff.1 found
  obtain ⟨rfl, rfl⟩ : t.name = name ∧ t.kind = kind := by simpa using List.find?_some search
  exact sound.target base published t (List.mem_of_find?_eq_some search)

/-- A successor of a published shape is published, and adds the name in a slot of the kind. -/
theorem Sound.withAttribute {space : ShapeSpace} (sound : space.Sound) {registry : RegistryId}
    (hr : registry.index < space.registries.size) {base : Shape} (hb : space.Published base)
    (name : String) (kind : Kind) :
    space.Grows (space.withAttribute registry base name kind) ∧
      ∃ serial id, (space.withAttribute registry base name kind).1 =
        base.successor serial id name kind := by
  unfold ShapeSpace.withAttribute
  cases ht : space.transition? base name kind with
  | none => exact ⟨sound.publish hr hb name kind, _, _, rfl⟩
  | some target =>
    obtain ⟨published, successor⟩ := sound.of_transition? hb ht
    exact ⟨⟨sound, .refl space, published⟩, successor⟩

theorem Sound.layOut {space : ShapeSpace} (sound : space.Sound) {registry : RegistryId}
    (hr : registry.index < space.registries.size) {base : Shape} (hb : space.Published base)
    (signature : List (String × Kind)) : space.Grows (space.layOut registry base signature) := by
  -- Every entry is added in the space that the entries before it led to.
  induction signature generalizing space base with
  | nil => exact ⟨sound, .refl space, hb⟩
  | cons entry rest ih =>
    obtain ⟨name, kind⟩ := entry
    have grown := (sound.withAttribute hr hb name kind).1
    have rest := ih grown.sound (Nat.lt_of_lt_of_le hr grown.ext.registries) grown.published
    exact ⟨rest.sound, grown.ext.trans rest.ext, rest.published⟩

/-- Laying out a signature adds it. -/
theorem signature_layOut {space : ShapeSpace} (sound : space.Sound) {registry : RegistryId}
    (hr : registry.index < space.registries.size) {base : Shape} (hb : space.Published base)
    (signature : List (String × Kind)) :
    (space.layOut registry base signature).1.signature = base.signature ++ signature := by
  induction signature generalizing space base with
  | nil => simp [ShapeSpace.layOut]
  | cons entry rest ih =>
    obtain ⟨name, kind⟩ := entry
    obtain ⟨grown, serial, id, successor⟩ := sound.withAttribute hr hb name kind
    have hrest := ih grown.sound (Nat.lt_of_lt_of_le hr grown.ext.registries) grown.published
    rw [ShapeSpace.layOut]
    refine hrest.trans ?_
    rw [successor, Shape.signature_successor, List.append_assoc]
    rfl

theorem Sound.widen {space : ShapeSpace} (sound : space.Sound) {registry : RegistryId}
    (hr : registry.index < space.registries.size) {base : Shape} (hb : space.Published base)
    (name : String) : space.Grows (space.widen registry base name) := by
  have unchanged : space.Grows (base, space) := ⟨sound, .refl space, hb⟩
  unfold ShapeSpace.widen
  split
  · split
    · exact sound.layOut hr (sound.root registry hr).1 _
    · exact unchanged
  · exact unchanged

/-- **A widened shape boxes the name**, and is otherwise laid out as before. -/
theorem signature_widen {space : ShapeSpace} (sound : space.Sound) {registry : RegistryId}
    (hr : registry.index < space.registries.size) {base : Shape} {name : String}
    {location : Location} (found : base.find? name = some location)
    (primitive : location.kind.isPrimitive = true) :
    (space.widen registry base name).1.signature = boxing name base.signature := by
  obtain ⟨published, serial, empty⟩ := sound.root registry hr
  simp only [ShapeSpace.widen, found, primitive, if_true]
  rw [signature_layOut sound hr published, empty]
  simp

end ShapeSpace

end InlineCache
