import InlineCache.Proofs.Store.Writing
import InlineCache.Proofs.World.Frame

/-!
# Sound worlds

In a sound world every store fits its shape, the shapes in use are published, every class holds a
token of its own, and classes and superclasses are classes that were created. A later world extends
an earlier one if it has all that was there, if no token became valid again, and if every class
whose earlier token is still valid holds it still and has its layout and superclass still. Every
operation leads from a sound world to a sound one that extends it.

The last clause speaks about the token that a class held in the earlier world, so it says nothing
between the moment a layout changes and the moment the token is renewed. The two are one step for
it: `Disturbs` describes the first half and `Disturbs.extends_renewAssumption` completes it.

## Main definitions

* `World.Sound`: what holds of every world that a client can meet
* `World.Extends`: what an operation keeps
* `World.Grows`: an operation led to a sound extension
* `World.Disturbs`: one class may have another layout or superclass, and no token moved

## Main results

* `Extends.trans`: what two operations keep in turn
* `Sound.newClass`, `Sound.newInstance` and others: operations grow a world
* `Disturbs.extends_renewAssumption`: a disturbance with a renewal grows it too
-/

namespace InlineCache

namespace World

/-- What holds of every world that a client can meet: stores fit their shapes, the shapes in use are
published, every class holds a token of its own that was minted, and what a class or an instance
points at was created. -/
structure Sound (world : World) : Prop where
  space : world.space.Sound
  fits : ∀ holder, world.HasHolder holder → (world.store holder).Fits
  published : ∀ holder, world.HasHolder holder →
    world.space.Published (world.store holder).shape
  minted : ∀ c, world.HasClass c → world.HasAssumption (world.currentAssumption c)
  distinct : ∀ c d, world.HasClass c → world.HasClass d →
    world.currentAssumption c = world.currentAssumption d → c = d
  superclass : ∀ c, world.HasClass c → ∀ b ∈ world.superclass c, world.HasClass b
  classOf : ∀ i, world.HasObject (.inst i) → world.HasClass (world.classOf i)

/-- What every operation keeps: what was there stays, no token becomes valid again, and a class
whose token is still valid has not moved. -/
structure Extends (world later : World) : Prop where
  space : world.space.Extends later.space
  holders : ∀ holder, world.HasHolder holder → later.HasHolder holder
  minted : ∀ a, world.HasAssumption a → later.HasAssumption a
  classOf : ∀ i, world.HasObject (.inst i) → later.classOf i = world.classOf i
  retired : ∀ a, world.HasAssumption a → later.holds a = true → world.holds a = true
  unmoved : ∀ c, world.HasClass c → later.holds (world.currentAssumption c) = true →
    world.Unmoved later c

/-- The operation led to a sound world that extends the one before. -/
structure Grows (world later : World) : Prop where
  sound : later.Sound
  ext : world.Extends later

theorem Extends.refl (world : World) : world.Extends world :=
  ⟨.refl _, fun _ h => h, fun _ h => h, fun _ _ => rfl, fun _ _ h => h,
    fun _ _ _ => ⟨rfl, rfl, rfl⟩⟩

theorem Extends.hasClass {world later : World} (ext : world.Extends later) {c : ClassId}
    (h : world.HasClass c) : later.HasClass c :=
  ext.holders (.object (.cls c)) h

theorem Extends.classes_size_le {world later : World} (ext : world.Extends later) :
    world.classes.size ≤ later.classes.size := by
  by_contra fewer
  -- otherwise the first position beyond the later classes would have been a class before
  have lost : later.HasClass ⟨later.classes.size⟩ := ext.hasClass (Nat.lt_of_not_le fewer)
  exact Nat.lt_irrefl _ lost

/-- **What two operations keep in turn.** A token that is valid in the end was valid in between, so
its class moved neither before nor after. -/
theorem Extends.trans {first second third : World} (sound : first.Sound)
    (h : first.Extends second) (k : second.Extends third) : first.Extends third where
  space := h.space.trans k.space
  holders holder hh := k.holders holder (h.holders holder hh)
  minted a ha := k.minted a (h.minted a ha)
  classOf i hi := (k.classOf i (h.holders (.object (.inst i)) hi)).trans (h.classOf i hi)
  retired a ha valid := h.retired a ha (k.retired a (h.minted a ha) valid)
  unmoved c hc valid := by
    -- valid in the end, hence valid in between, where it is still the token of the class
    have between := k.retired _ (h.minted _ (sound.minted c hc)) valid
    have before := h.unmoved c hc between
    exact before.trans (k.unmoved c (h.hasClass hc) (by rwa [before.assumption]))

theorem Grows.refl {world : World} (sound : world.Sound) : world.Grows world :=
  ⟨sound, .refl world⟩

variable {world : World}

theorem sound_empty : World.empty.Sound := by
  refine ⟨⟨?_, ?_, ?_, ?_, ?_⟩, ?_, ?_, ?_, ?_, ?_, ?_⟩
  all_goals
    simp [World.empty, ShapeSpace.empty, ShapeSpace.Published, HasHolder, HasObject, HasClass]
  · rintro ((_ | _ | _) | _) h <;> simp at h
  · rintro ((_ | _ | _) | _) h <;> simp at h

/-! ## Operations on shapes -/

/-- The space of shapes may grow under the world. -/
theorem Sound.grows_withSpace (sound : world.Sound) {space : ShapeSpace} (grown : space.Sound)
    (ext : world.space.Extends space) : world.Grows { world with space } where
  sound :=
    { sound with
      space := grown
      published := fun holder h => ext.published _ (sound.published holder h) }
  ext :=
    { Extends.refl world with
      space := ext
      unmoved := fun _ _ _ => unmoved_of_classObject rfl }

/-! ## Creation -/

theorem Sound.emptyStore (sound : world.Sound) {registry : RegistryId}
    (hr : world.HasRegistry registry) :
    (world.emptyStore registry).Fits ∧ world.space.Published (world.emptyStore registry).shape := by
  obtain ⟨published, serial, empty⟩ := sound.space.root registry hr
  refine ⟨?_, published⟩
  rw [World.emptyStore, empty]
  exact ⟨trivial, List.nodup_nil, rfl⟩

/-- A holder that is no class may be added. -/
theorem Sound.grows_of_adds (sound : world.Sound) {later : World} {fresh : Holder}
    {s : AttributeStore} (adds : world.Adds later fresh s)
    (fits : s.Fits) (published : world.space.Published s.shape)
    (space : later.space = world.space) (assumptions : later.assumptions = world.assumptions)
    (classes : later.classes = world.classes)
    (classOf : ∀ i, world.HasObject (.inst i) → later.classOf i = world.classOf i)
    (owned : ∀ i, fresh = .object (.inst i) → world.HasClass (later.classOf i)) :
    world.Grows later := by
  have same (c : ClassId) : later.classObject c = world.classObject c := by
    simp only [classObject, classes]
  have hasClass (c : ClassId) : later.HasClass c ↔ world.HasClass c := by
    simp only [HasClass, classes]
  have unmoved (c : ClassId) : world.Unmoved later c := unmoved_of_classObject (same c)
  have stores {P : AttributeStore → Prop} (old : ∀ holder, world.HasHolder holder →
      P (world.store holder)) (new : P s) (holder : Holder) (h : later.HasHolder holder) :
      P (later.store holder) := by
    rcases (adds.hasHolder_iff holder).1 h with h | rfl
    · exact adds.store_old holder h ▸ old holder h
    · exact adds.store_fresh ▸ new
  refine ⟨?_, ?_⟩
  · exact
      { space := space ▸ sound.space
        fits := stores (P := AttributeStore.Fits) sound.fits fits
        published := by
          rw [space]
          exact stores (P := fun s => world.space.Published s.shape) sound.published published
        minted := fun c hc => by
          simpa [(unmoved c).assumption, HasAssumption, assumptions] using
            sound.minted c ((hasClass c).1 hc)
        distinct := fun c d hc hd e => by
          rw [(unmoved c).assumption, (unmoved d).assumption] at e
          exact sound.distinct c d ((hasClass c).1 hc) ((hasClass d).1 hd) e
        superclass := fun c hc b hb => by
          rw [(unmoved c).superclass] at hb
          exact (hasClass b).2 (sound.superclass c ((hasClass c).1 hc) b hb)
        classOf := fun i hi => by
          rcases (adds.hasHolder_iff (.object (.inst i))).1 hi with h | h
          · rw [hasClass, classOf i h]
            exact sound.classOf i h
          · exact (hasClass _).2 (owned i h.symm) }
  · exact
      { space := space ▸ .refl world.space
        holders := fun holder h => (adds.hasHolder_iff holder).2 (.inl h)
        minted := fun a ha => by simpa [HasAssumption, assumptions] using ha
        classOf := classOf
        retired := fun a _ h => by simpa [holds, assumptions] using h
        unmoved := fun c _ _ => unmoved c }

theorem Sound.newInstance (sound : world.Sound) {registry : RegistryId}
    (hr : world.HasRegistry registry) {cls : ClassId} (hc : world.HasClass cls) :
    world.Grows (world.newInstance registry cls).2 := by
  obtain ⟨fits, published⟩ := sound.emptyStore hr
  refine sound.grows_of_adds (newInstance_adds world registry cls) fits published rfl rfl rfl ?_ ?_
  · intro i hi
    have ne : i.index ≠ world.instances.size := Nat.ne_of_lt hi
    simp [World.classOf, instanceObject, World.newInstance, Array.getElem?_push, ne]
  · intro i hi
    cases hi
    simpa [World.classOf, instanceObject, World.newInstance] using hc

theorem Sound.newModule (sound : world.Sound) {registry : RegistryId}
    (hr : world.HasRegistry registry) (name : String) :
    world.Grows (world.newModule registry name).2 := by
  obtain ⟨fits, published⟩ := sound.emptyStore hr
  exact sound.grows_of_adds (newModule_adds world registry name) fits published rfl rfl rfl
    (fun _ _ => rfl) (fun _ h => nomatch h)

/-- Adding a store that belongs to no object. -/
theorem Sound.pushStore (sound : world.Sound) {s : AttributeStore} (fits : s.Fits)
    (published : world.space.Published s.shape) :
    world.Grows { world with stores := world.stores.push s } :=
  sound.grows_of_adds (pushStore_adds world s) fits published rfl rfl rfl (fun _ _ => rfl)
    (fun _ h => nomatch h)

/-- A shape with the number of an empty shape is one, so a store may begin with it. -/
theorem Sound.newStoreOn (sound : world.Sound) {root : Shape}
    (published : world.space.Published root) (empty : root.isEmpty = true) :
    world.Grows (world.newStoreOn root).2 := by
  refine sound.pushStore ?_ published
  obtain ⟨serial, rfl⟩ := sound.space.empty_of_id root published
    (by simpa [Shape.isEmpty] using empty)
  exact ⟨trivial, List.nodup_nil, rfl⟩

theorem Sound.newStore (sound : world.Sound) {registry : RegistryId}
    (hr : world.HasRegistry registry) : world.Grows (world.newStore registry).2 := by
  obtain ⟨fits, published⟩ := sound.emptyStore hr
  exact sound.pushStore fits published

theorem Sound.copyStore (sound : world.Sound) {s : StoreId} (h : world.HasHolder (.detached s)) :
    world.Grows (world.copyStore s).2 :=
  sound.pushStore (sound.fits _ h) (sound.published _ h)

/-! ## Tokens -/

theorem Sound.mint (sound : world.Sound) : world.Grows world.mint.2 where
  sound :=
    { sound with
      minted := fun c hc => by
        have lt : (world.currentAssumption c).index < world.assumptions.size := sound.minted c hc
        show _ < (world.assumptions.push true).size
        rw [Array.size_push]
        exact Nat.lt_succ_of_lt lt }
  ext :=
    { Extends.refl world with
      minted := fun a ha => by
        have lt : a.index < world.assumptions.size := ha
        show a.index < (world.assumptions.push true).size
        rw [Array.size_push]
        exact Nat.lt_succ_of_lt lt
      retired := fun a ha h => by rwa [holds_mint_of_lt ha] at h
      unmoved := fun _ _ _ => unmoved_of_classObject rfl }

theorem Sound.invalidate (sound : world.Sound) (a : Assumption) :
    world.Grows (world.invalidate a).2 where
  sound :=
    { sound with
      minted := fun c hc => by
        have minted := sound.minted c hc
        simpa [World.invalidate, HasAssumption, currentAssumption, classObject] using minted }
  ext :=
    { Extends.refl world with
      minted := fun b hb => by simpa [World.invalidate, HasAssumption] using hb
      retired := fun b _ h => by
        by_cases e : b = a
        · rw [e, not_holds_invalidate] at h
          cases h
        · rwa [holds_invalidate_of_ne e] at h
      unmoved := fun _ _ _ => unmoved_of_classObject rfl }

/-- In the later world the class `c` holds the token that was minted last, and the others hold what
they held. -/
structure Freshens (world later : World) (c : ClassId) : Prop where
  hasAssumption_iff : ∀ a, later.HasAssumption a ↔ world.HasAssumption a ∨ a = world.mint.1
  fresh : later.currentAssumption c = world.mint.1
  kept : ∀ d, later.HasClass d → d ≠ c →
    world.HasClass d ∧ later.currentAssumption d = world.currentAssumption d

theorem not_hasAssumption_mint (world : World) : ¬ world.HasAssumption world.mint.1 :=
  Nat.lt_irrefl _

theorem Freshens.minted {later : World} {c : ClassId} (fresh : world.Freshens later c)
    (sound : world.Sound) (d : ClassId) (hd : later.HasClass d) :
    later.HasAssumption (later.currentAssumption d) := by
  rw [fresh.hasAssumption_iff]
  by_cases e : d = c
  · exact .inr (e ▸ fresh.fresh)
  · obtain ⟨old, kept⟩ := fresh.kept d hd e
    exact .inl (kept ▸ sound.minted d old)

theorem Freshens.distinct {later : World} {c : ClassId} (fresh : world.Freshens later c)
    (sound : world.Sound) (d e : ClassId) (hd : later.HasClass d) (he : later.HasClass e)
    (same : later.currentAssumption d = later.currentAssumption e) : d = e := by
  -- Whoever holds an old token does not hold the fresh one, which was not minted before.
  have old (d : ClassId) (hd : later.HasClass d) (hne : d ≠ c) :
      later.currentAssumption d ≠ world.mint.1 := by
    intro h
    obtain ⟨old, kept⟩ := fresh.kept d hd hne
    exact not_hasAssumption_mint world (h ▸ kept ▸ sound.minted d old)
  by_cases hdc : d = c <;> by_cases hec : e = c
  · exact hdc.trans hec.symm
  · exact absurd (same ▸ hdc ▸ fresh.fresh) (old e he hec)
  · exact absurd (same.trans (hec ▸ fresh.fresh)) (old d hd hdc)
  · obtain ⟨hd, dkept⟩ := fresh.kept d hd hdc
    obtain ⟨he, ekept⟩ := fresh.kept e he hec
    rw [dkept, ekept] at same
    exact sound.distinct d e hd he same

theorem newClass_freshens (world : World) (registry : RegistryId) (name : String)
    (superclass : Option ClassId) :
    world.Freshens (world.newClass registry name superclass).2 ⟨world.classes.size⟩ where
  hasAssumption_iff a := by
    rcases a with ⟨a⟩
    simp [HasAssumption, newClass, mint]
    omega
  fresh := by rw [currentAssumption, classObject_newClass_self]
  kept d hd hne := by
    rcases ((newClass_adds world registry name superclass).hasHolder_iff (.object (.cls d))).1 hd
      with h | h
    · exact ⟨h, (unmoved_of_classObject
        (classObject_newClass_of_lt h registry name superclass)).assumption⟩
    · cases h
      exact absurd rfl hne

theorem Sound.newClass (sound : world.Sound) {registry : RegistryId}
    (hr : world.HasRegistry registry) (name : String) {superclass : Option ClassId}
    (hs : ∀ b ∈ superclass, world.HasClass b) :
    world.Grows (world.newClass registry name superclass).2 := by
  have adds := newClass_adds world registry name superclass
  have freshens := newClass_freshens world registry name superclass
  obtain ⟨fits, published⟩ := sound.emptyStore hr
  have unmoved (c : ClassId) (hc : world.HasClass c) :
      world.Unmoved (world.newClass registry name superclass).2 c :=
    unmoved_of_classObject (classObject_newClass_of_lt hc registry name superclass)
  refine ⟨⟨sound.space, ?_, ?_, freshens.minted sound, freshens.distinct sound, ?_, ?_⟩,
    ⟨.refl _, ?_, ?_, fun _ _ => rfl, ?_, fun c hc _ => unmoved c hc⟩⟩
  · intro holder h
    rcases (adds.hasHolder_iff holder).1 h with h | rfl
    · exact adds.store_old holder h ▸ sound.fits holder h
    · exact adds.store_fresh ▸ fits
  · intro holder h
    rcases (adds.hasHolder_iff holder).1 h with h | rfl
    · exact adds.store_old holder h ▸ sound.published holder h
    · exact adds.store_fresh ▸ published
  · intro c hc b hb
    refine (adds.hasHolder_iff (.object (.cls b))).2 (.inl ?_)
    rcases (adds.hasHolder_iff (.object (.cls c))).1 hc with h | h
    · rw [(unmoved c h).superclass] at hb
      exact sound.superclass c h b hb
    · cases h
      rw [World.superclass] at hb
      exact hs b (by rwa [show (world.newClass registry name superclass).1 =
        ⟨world.classes.size⟩ from rfl, classObject_newClass_self] at hb)
  · intro i hi
    exact (adds.hasHolder_iff (.object (.cls _))).2 (.inl (sound.classOf i hi))
  · exact fun holder h => (adds.hasHolder_iff holder).2 (.inl h)
  · exact fun a ha => (freshens.hasAssumption_iff a).2 (.inl ha)
  · exact fun a ha h => (holds_mint_of_lt ha).symm.trans h

/-! ## Renewal -/

theorem renewAssumption_freshens {c : ClassId} (h : world.HasClass c) :
    world.Freshens (world.renewAssumption c).2 c where
  hasAssumption_iff := hasAssumption_renewAssumption_iff world c
  fresh := currentAssumption_renewAssumption h
  kept d hd hne := by
    refine ⟨(hasHolder_renewAssumption world c (.object (.cls d))).1 hd, ?_⟩
    simp only [currentAssumption, classObject_renewAssumption_of_ne hne]

theorem Sound.renewAssumption (sound : world.Sound) {c : ClassId} (hc : world.HasClass c) :
    (world.renewAssumption c).2.Sound where
  space := sound.space
  fits holder h := by
    rw [store_renewAssumption hc]
    exact sound.fits holder ((hasHolder_renewAssumption ..).1 h)
  published holder h := by
    rw [store_renewAssumption hc]
    exact sound.published holder ((hasHolder_renewAssumption ..).1 h)
  minted := (renewAssumption_freshens hc).minted sound
  distinct := (renewAssumption_freshens hc).distinct sound
  superclass d hd b hb := by
    rw [superclass_renewAssumption hc] at hb
    exact (hasHolder_renewAssumption world c (.object (.cls b))).2
      (sound.superclass d ((hasHolder_renewAssumption world c (.object (.cls d))).1 hd) b hb)
  classOf i hi := (hasHolder_renewAssumption world c (.object (.cls _))).2 (sound.classOf i hi)

/-- The class may have another layout or another superclass; no token and no other class moved. -/
structure Disturbs (world later : World) (c : ClassId) : Prop where
  space : world.space.Extends later.space
  hasHolder_iff : ∀ holder, later.HasHolder holder ↔ world.HasHolder holder
  assumptions : later.assumptions = world.assumptions
  classOf : ∀ i, later.classOf i = world.classOf i
  current : later.currentAssumption c = world.currentAssumption c
  unmoved : ∀ d, d ≠ c → world.Unmoved later d

/-- Whatever happened to a class, once its token is renewed nothing valid depends on it. -/
theorem Disturbs.extends_renewAssumption {between : World} {c : ClassId}
    (disturbs : world.Disturbs between c) (hc : world.HasClass c) (sound : world.Sound) :
    world.Extends (between.renewAssumption c).2 := by
  have minted (a : Assumption) : between.HasAssumption a ↔ world.HasAssumption a := by
    simp only [HasAssumption, disturbs.assumptions]
  refine ⟨disturbs.space, ?_, ?_, fun i _ => disturbs.classOf i, ?_, ?_⟩
  · intro holder h
    exact (hasHolder_renewAssumption ..).2 ((disturbs.hasHolder_iff holder).2 h)
  · intro a ha
    exact (hasAssumption_renewAssumption_iff ..).2 (.inl ((minted a).2 ha))
  · intro a ha valid
    have before := ((holds_renewAssumption_iff ((minted a).2 ha)).1 valid).1
    simpa [holds, disturbs.assumptions] using before
  · intro d hd valid
    have ne : d ≠ c := by
      rintro rfl
      have retired := ((holds_renewAssumption_iff ((minted _).2 (sound.minted d hd))).1 valid).2
      exact retired disturbs.current.symm
    exact (disturbs.unmoved d ne).trans
      (unmoved_of_classObject (classObject_renewAssumption_of_ne ne))

end World

end InlineCache
