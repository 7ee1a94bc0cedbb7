import InlineCache.Proofs.World.Sound

/-!
# Writes and changes of superclass grow a world

A write replaces the store of one holder, and a change of superclass the superclass of one class.
Both may disturb that class; they renew its token exactly when they do, so the world afterwards
extends the one before.

## Main definitions

* `World.stored`: the world once a write is stored, and before a token is renewed

## Main results

* `Sound.setAttribute`, `Sound.setSuperclass`: the operations grow a sound world
* `store_setAttribute_of_ne`: a write leaves every other holder alone
* `unmoved_stored_of_kept`: a write that keeps the layout of a class does not move it
-/

namespace InlineCache

namespace World

variable {world : World} {registry : RegistryId} {holder : Holder} {name : String} {value : Value}
  {c : ClassId}

/-- The write to the store of a holder. -/
def written (world : World) (registry : RegistryId) (holder : Holder) (name : String)
    (value : Value) : Written :=
  (world.store holder).set world.space registry name value

/-- The world once the shapes of the write are published. -/
def prepared (world : World) (registry : RegistryId) (holder : Holder) (name : String)
    (value : Value) : World :=
  { world with space := (world.written registry holder name value).space }

/-- The world once the write is stored. -/
def stored (world : World) (registry : RegistryId) (holder : Holder) (name : String)
    (value : Value) : World :=
  (world.prepared registry holder name value).putStore holder
    (world.written registry holder name value).store

/-- A write that changes the layout of a class renews its token. -/
theorem world_setAttribute_of_changed
    (changed : (world.written registry (.object (.cls c)) name value).outcome.changedShape = true) :
    (world.setAttribute registry (.object (.cls c)) name value).world =
      ((world.stored registry (.object (.cls c)) name value).renewAssumption c).2 := by
  unfold written at changed
  simp only [setAttribute, changed, if_true]
  rfl

/-- Any other write renews none. -/
theorem world_setAttribute_of_kept (kept : ∀ c, holder = .object (.cls c) →
      (world.written registry holder name value).outcome.changedShape = false) :
    (world.setAttribute registry holder name value).world =
      world.stored registry holder name value := by
  rcases holder with (_ | c | _) | _ <;> try rfl
  have kept := kept c rfl
  unfold written at kept
  simp only [setAttribute, kept]
  rfl

/-- Either way the world afterwards is the one with the write stored, up to the tokens. -/
theorem world_setAttribute_cases (world : World) (registry : RegistryId) (holder : Holder)
    (name : String) (value : Value) :
    (world.setAttribute registry holder name value).world =
        world.stored registry holder name value ∨
      ∃ c, holder = .object (.cls c) ∧
        (world.setAttribute registry holder name value).world =
          ((world.stored registry holder name value).renewAssumption c).2 := by
  by_cases changed : ∃ c, holder = .object (.cls c) ∧
      (world.written registry holder name value).outcome.changedShape = true
  · obtain ⟨c, rfl, changed⟩ := changed
    exact .inr ⟨c, rfl, world_setAttribute_of_changed changed⟩
  · refine .inl (world_setAttribute_of_kept fun c e => ?_)
    simpa using fun h => changed ⟨c, e, h⟩

/-! ## The stored write -/

theorem Sound.written_assigns (sound : world.Sound) (hr : world.HasRegistry registry)
    (hh : world.HasHolder holder) (name : String) (value : Value) :
    (world.store holder).Assigns world.space name value
      (world.written registry holder name value) :=
  (sound.fits holder hh).set_assigns sound.space hr (sound.published holder hh) name value

theorem Sound.putStore (sound : world.Sound) (hh : world.HasHolder holder) {s : AttributeStore}
    (fits : s.Fits) (published : world.space.Published s.shape) :
    (world.putStore holder s).Sound where
  space := by rw [space_putStore]; exact sound.space
  fits other h := by
    by_cases e : other = holder
    · rw [e, store_putStore_self hh]
      exact fits
    · rw [store_putStore_of_ne e]
      exact sound.fits other ((hasHolder_putStore ..).1 h)
  published other h := by
    rw [space_putStore]
    by_cases e : other = holder
    · rw [e, store_putStore_self hh]
      exact published
    · rw [store_putStore_of_ne e]
      exact sound.published other ((hasHolder_putStore ..).1 h)
  minted d hd := by
    rw [currentAssumption_putStore, HasAssumption, assumptions_putStore]
    exact sound.minted d ((hasClass_putStore ..).1 hd)
  distinct d e hd he same := by
    rw [currentAssumption_putStore, currentAssumption_putStore] at same
    exact sound.distinct d e ((hasClass_putStore ..).1 hd) ((hasClass_putStore ..).1 he) same
  superclass d hd b hb := by
    rw [superclass_putStore] at hb
    exact (hasClass_putStore ..).2 (sound.superclass d ((hasClass_putStore ..).1 hd) b hb)
  classOf i hi := by
    rw [classOf_putStore, hasClass_putStore]
    exact sound.classOf i ((hasHolder_putStore world holder (.object (.inst i)) s).1 hi)

theorem Sound.stored (sound : world.Sound) (hr : world.HasRegistry registry)
    (hh : world.HasHolder holder) (name : String) (value : Value) :
    (world.stored registry holder name value).Sound := by
  have assigns := sound.written_assigns hr hh name value
  have grown : (world.prepared registry holder name value).Sound :=
    (sound.grows_withSpace assigns.sound assigns.ext).sound
  have hh : (world.prepared registry holder name value).HasHolder holder := hh
  exact grown.putStore hh assigns.fits assigns.published

theorem hasHolder_stored (other : Holder) :
    (world.stored registry holder name value).HasHolder other ↔ world.HasHolder other :=
  hasHolder_putStore _ holder other _

theorem store_stored_self (hh : world.HasHolder holder) :
    (world.stored registry holder name value).store holder =
      (world.written registry holder name value).store := by
  have hh : (world.prepared registry holder name value).HasHolder holder := hh
  exact store_putStore_self hh _

theorem store_stored_of_ne {other : Holder} (h : other ≠ holder) :
    (world.stored registry holder name value).store other = world.store other :=
  store_putStore_of_ne h _

theorem unmoved_stored (hh : world.HasHolder holder)
    (kept : holder = .object (.cls c) →
      (world.written registry holder name value).store.shape = world.layout (.cls c)) :
    world.Unmoved (world.stored registry holder name value) c := by
  have first : world.Unmoved (world.prepared registry holder name value) c :=
    unmoved_of_classObject rfl
  have hh : (world.prepared registry holder name value).HasHolder holder := hh
  exact first.trans (unmoved_putStore hh kept)

theorem assumptions_stored :
    (world.stored registry holder name value).assumptions = world.assumptions :=
  assumptions_putStore _ holder _

/-! ## Writes -/

/-- A write leaves the store of every other holder alone. -/
theorem store_setAttribute_of_ne (hh : world.HasHolder holder) {other : Holder}
    (h : other ≠ holder) :
    (world.setAttribute registry holder name value).world.store other = world.store other := by
  rcases world_setAttribute_cases world registry holder name value with e | ⟨c, rfl, e⟩
  · rw [e, store_stored_of_ne h]
  · rw [e, store_renewAssumption (hasHolder_stored _ |>.2 hh), store_stored_of_ne h]

/-- A write stores what the store's write gives. -/
theorem store_setAttribute_self (hh : world.HasHolder holder) :
    (world.setAttribute registry holder name value).world.store holder =
      (world.written registry holder name value).store := by
  rcases world_setAttribute_cases world registry holder name value with e | ⟨c, rfl, e⟩
  · rw [e, store_stored_self hh]
  · rw [e, store_renewAssumption (hasHolder_stored _ |>.2 hh), store_stored_self hh]

theorem hasHolder_setAttribute (other : Holder) :
    (world.setAttribute registry holder name value).world.HasHolder other ↔
      world.HasHolder other := by
  rcases world_setAttribute_cases world registry holder name value with e | ⟨c, -, e⟩
  · rw [e, hasHolder_stored]
  · rw [e, hasHolder_renewAssumption, hasHolder_stored]

/-- A write that keeps the layout moves no class. -/
theorem unmoved_stored_of_kept (hh : world.HasHolder holder)
    (kept : ∀ c, holder = .object (.cls c) →
      (world.written registry holder name value).outcome.changedShape = false) (c : ClassId) :
    world.Unmoved (world.stored registry holder name value) c := by
  refine unmoved_stored hh fun e => ?_
  have inPlace := WriteOutcome.changedShape_eq_false_iff.1 (kept c e)
  refine (AttributeStore.shape_set_of_inPlace inPlace).trans ?_
  rw [e]
  rfl

theorem disturbs_stored (sound : world.Sound) (hr : world.HasRegistry registry)
    (hc : world.HasHolder (.object (.cls c))) :
    world.Disturbs (world.stored registry (.object (.cls c)) name value) c where
  space := by
    rw [World.stored, space_putStore]
    exact (sound.written_assigns hr hc name value).ext
  hasHolder_iff := hasHolder_stored
  assumptions := assumptions_stored
  classOf i := classOf_putStore ..
  current := currentAssumption_putStore ..
  unmoved d hd := unmoved_stored hc fun e => by
    cases e
    exact absurd rfl hd

theorem Sound.setAttribute (sound : world.Sound) (hr : world.HasRegistry registry)
    (hh : world.HasHolder holder) (name : String) (value : Value) :
    world.Grows (world.setAttribute registry holder name value).world := by
  have stored := sound.stored hr hh name value
  -- Only a class whose layout changed is disturbed, and then its token is renewed at once.
  by_cases changed : ∃ c, holder = .object (.cls c) ∧
      (world.written registry holder name value).outcome.changedShape = true
  · obtain ⟨c, rfl, changed⟩ := changed
    rw [world_setAttribute_of_changed changed]
    exact ⟨stored.renewAssumption ((hasHolder_stored _).2 hh),
      (disturbs_stored sound hr hh).extends_renewAssumption hh sound⟩
  · have kept (c : ClassId) (e : holder = .object (.cls c)) :
        (world.written registry holder name value).outcome.changedShape = false := by
      simpa using fun h => changed ⟨c, e, h⟩
    rw [world_setAttribute_of_kept kept]
    refine ⟨stored, ?_, fun other h => (hasHolder_stored other).2 h, ?_, ?_, ?_, ?_⟩
    · rw [World.stored, space_putStore]
      exact (sound.written_assigns hr hh name value).ext
    · exact fun a ha => by rwa [HasAssumption, assumptions_stored]
    · exact fun i _ => classOf_putStore ..
    · exact fun a _ h => by rwa [holds, assumptions_stored] at h
    · exact fun c _ _ => unmoved_stored_of_kept hh kept c

/-! ## Changes of superclass -/

/-- The class with another superclass, and its old token. -/
def rewired (world : World) (c : ClassId) (superclass : Option ClassId) : World :=
  world.putClass c { world.classObject c with superclass }

theorem setSuperclass_eq_ok {superclass : Option ClassId} {step : Step Unit}
    (h : world.setSuperclass c superclass = .ok step) :
    step.world = ((world.rewired c superclass).renewAssumption c).2 := by
  unfold setSuperclass at h
  split at h
  · cases h
  · cases h
    rfl

theorem disturbs_rewired (hc : world.HasClass c) (superclass : Option ClassId) :
    world.Disturbs (world.rewired c superclass) c where
  space := .refl _
  hasHolder_iff := hasHolder_putClass world c _
  assumptions := rfl
  classOf _ := rfl
  current := by rw [currentAssumption, rewired, classObject_putClass_self hc]; rfl
  unmoved _ hd := unmoved_of_classObject (classObject_putClass_of_ne hd _)

theorem store_rewired (hc : world.HasClass c) (superclass : Option ClassId) (holder : Holder) :
    (world.rewired c superclass).store holder = world.store holder := by
  have attributes : { world.classObject c with superclass }.attributes =
      world.attributes (.cls c) := rfl
  exact store_putClass hc attributes holder

theorem Sound.rewired (sound : world.Sound) (hc : world.HasClass c) {superclass : Option ClassId}
    (hs : ∀ b ∈ superclass, world.HasClass b) : (world.rewired c superclass).Sound := by
  have disturbs := disturbs_rewired hc superclass
  have hasClass (d : ClassId) : (world.rewired c superclass).HasClass d ↔ world.HasClass d :=
    disturbs.hasHolder_iff (.object (.cls d))
  have current (d : ClassId) :
      (world.rewired c superclass).currentAssumption d = world.currentAssumption d := by
    by_cases e : d = c
    · exact e ▸ disturbs.current
    · exact (disturbs.unmoved d e).assumption
  refine ⟨sound.space, ?_, ?_, ?_, ?_, ?_, ?_⟩
  · intro holder h
    rw [store_rewired hc]
    exact sound.fits holder ((disturbs.hasHolder_iff holder).1 h)
  · intro holder h
    rw [store_rewired hc]
    exact sound.published holder ((disturbs.hasHolder_iff holder).1 h)
  · intro d hd
    rw [current]
    exact sound.minted d ((hasClass d).1 hd)
  · intro d e hd he same
    rw [current, current] at same
    exact sound.distinct d e ((hasClass d).1 hd) ((hasClass e).1 he) same
  · intro d hd b hb
    refine (hasClass b).2 ?_
    by_cases e : d = c
    · rw [e, World.superclass, World.rewired, classObject_putClass_self hc] at hb
      exact hs b hb
    · rw [(disturbs.unmoved d e).superclass] at hb
      exact sound.superclass d ((hasClass d).1 hd) b hb
  · exact fun i hi => (hasClass _).2 (sound.classOf i hi)

theorem Sound.setSuperclass (sound : world.Sound) (hc : world.HasClass c)
    {superclass : Option ClassId} (hs : ∀ b ∈ superclass, world.HasClass b) {step : Step Unit}
    (h : world.setSuperclass c superclass = .ok step) : world.Grows step.world := by
  rw [setSuperclass_eq_ok h]
  have disturbs := disturbs_rewired hc superclass
  exact ⟨(sound.rewired hc hs).renewAssumption ((disturbs.hasHolder_iff (.object (.cls c))).2 hc),
    disturbs.extends_renewAssumption hc sound⟩

end World

end InlineCache
