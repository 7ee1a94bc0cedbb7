import InlineCache.History

/-!
# What each update of the world leaves alone

An operation on the world creates a holder, replaces the store of one, replaces the superclass of a
class, or moves tokens. Each of them is described by what the readers of a world see afterwards: the
store of every holder, the class of every instance, the superclass and the token of every class, and
the validity of every token.

## Main definitions

* `World.Adds`: the later world has one holder more
* `World.Unmoved`: a class has the token, the layout and the superclass that it had

## Main results

* `newClass_adds`, `newInstance_adds`, `newModule_adds`, `pushStore_adds`
* `store_putStore_self`, `store_putStore_of_ne`: replacing a store
* `classObject_renewAssumption_of_ne`, `holds_renewAssumption_iff`: renewing a token
-/

namespace InlineCache

namespace World

/-- The later world has the holders of the earlier one with the stores that they had, and a fresh
holder besides. -/
structure Adds (world later : World) (fresh : Holder) (store : AttributeStore) : Prop where
  hasHolder_iff : ∀ holder, later.HasHolder holder ↔ world.HasHolder holder ∨ holder = fresh
  not_hasHolder : ¬ world.HasHolder fresh
  store_fresh : later.store fresh = store
  store_old : ∀ holder, world.HasHolder holder → later.store holder = world.store holder

/-- The class has the token, the layout and the superclass that it had. -/
structure Unmoved (world later : World) (c : ClassId) : Prop where
  assumption : later.currentAssumption c = world.currentAssumption c
  layout : later.layout (.cls c) = world.layout (.cls c)
  superclass : later.superclass c = world.superclass c

variable {world : World} {registry : RegistryId} {c d : ClassId} {a : Assumption}

theorem unmoved_of_classObject {later : World} (h : later.classObject c = world.classObject c) :
    world.Unmoved later c := by
  refine ⟨?_, ?_, ?_⟩ <;> simp only [currentAssumption, layout, attributes, superclass, h]

theorem Unmoved.trans {first second third : World} (h : first.Unmoved second c)
    (k : second.Unmoved third c) : first.Unmoved third c :=
  ⟨k.assumption.trans h.assumption, k.layout.trans h.layout, k.superclass.trans h.superclass⟩

/-! ## Creation -/

theorem newClass_adds (world : World) (registry : RegistryId) (name : String)
    (superclass : Option ClassId) :
    world.Adds (world.newClass registry name superclass).2
      (.object (.cls (world.newClass registry name superclass).1)) (world.emptyStore registry) where
  hasHolder_iff holder := by
    rcases holder with (_ | ⟨⟨i⟩⟩ | _) | _ <;> simp [HasHolder, HasObject, newClass, mint]
    omega
  not_hasHolder := by simp [HasHolder, HasObject, newClass, mint]
  store_fresh := by simp [store, attributes, classObject, newClass, mint, emptyStore]
  store_old holder h := by
    rcases holder with (_ | ⟨⟨i⟩⟩ | _) | _ <;> try rfl
    have ne : i ≠ world.classes.size := Nat.ne_of_lt h
    simp [store, attributes, classObject, newClass, mint, Array.getElem?_push, ne]

theorem newInstance_adds (world : World) (registry : RegistryId) (cls : ClassId) :
    world.Adds (world.newInstance registry cls).2
      (.object (.inst (world.newInstance registry cls).1)) (world.emptyStore registry) where
  hasHolder_iff holder := by
    rcases holder with (⟨⟨i⟩⟩ | _ | _) | _ <;> simp [HasHolder, HasObject, newInstance]
    omega
  not_hasHolder := by simp [HasHolder, HasObject, newInstance]
  store_fresh := by simp [store, attributes, instanceObject, newInstance]
  store_old holder h := by
    rcases holder with (⟨⟨i⟩⟩ | _ | _) | _ <;> try rfl
    have ne : i ≠ world.instances.size := Nat.ne_of_lt h
    simp [store, attributes, instanceObject, newInstance, Array.getElem?_push, ne]

theorem newModule_adds (world : World) (registry : RegistryId) (name : String) :
    world.Adds (world.newModule registry name).2
      (.object (.mod (world.newModule registry name).1)) (world.emptyStore registry) where
  hasHolder_iff holder := by
    rcases holder with (_ | _ | ⟨⟨i⟩⟩) | _ <;> simp [HasHolder, HasObject, newModule]
    omega
  not_hasHolder := by simp [HasHolder, HasObject, newModule]
  store_fresh := by simp [store, attributes, moduleObject, newModule]
  store_old holder h := by
    rcases holder with (_ | _ | ⟨⟨i⟩⟩) | _ <;> try rfl
    have ne : i ≠ world.modules.size := Nat.ne_of_lt h
    simp [store, attributes, moduleObject, newModule, Array.getElem?_push, ne]

/-- A store that belongs to no object is one more store, whatever is in it. -/
theorem pushStore_adds (world : World) (s : AttributeStore) :
    world.Adds { world with stores := world.stores.push s } (.detached ⟨world.stores.size⟩) s where
  hasHolder_iff holder := by
    rcases holder with (_ | _ | _) | ⟨⟨i⟩⟩ <;> simp [HasHolder, HasObject]
    omega
  not_hasHolder := by simp [HasHolder]
  store_fresh := by simp [store]
  store_old holder h := by
    rcases holder with (_ | _ | _) | ⟨⟨i⟩⟩ <;> try rfl
    have ne : i ≠ world.stores.size := Nat.ne_of_lt h
    simp [store, Array.getElem?_push, ne]

theorem classObject_newClass_of_lt (h : world.HasClass c) (registry : RegistryId) (name : String)
    (superclass : Option ClassId) :
    (world.newClass registry name superclass).2.classObject c = world.classObject c := by
  have ne : c.index ≠ world.classes.size := Nat.ne_of_lt h
  simp [classObject, newClass, mint, Array.getElem?_push, ne]

theorem classObject_newClass_self (world : World) (registry : RegistryId) (name : String)
    (superclass : Option ClassId) :
    (world.newClass registry name superclass).2.classObject ⟨world.classes.size⟩ =
      ⟨name, superclass, world.mint.1, world.emptyStore registry⟩ := by
  simp [classObject, newClass, mint, emptyStore]

/-! ## Replacing a store -/

@[simp] theorem space_putStore (world : World) (holder : Holder) (s : AttributeStore) :
    (world.putStore holder s).space = world.space := by
  rcases holder with (_ | _ | _) | _ <;> rfl

@[simp] theorem assumptions_putStore (world : World) (holder : Holder) (s : AttributeStore) :
    (world.putStore holder s).assumptions = world.assumptions := by
  rcases holder with (_ | _ | _) | _ <;> rfl

@[simp] theorem hasHolder_putStore (world : World) (holder other : Holder) (s : AttributeStore) :
    (world.putStore holder s).HasHolder other ↔ world.HasHolder other := by
  rcases holder with (_ | _ | _) | _ <;> rcases other with (_ | _ | _) | _ <;>
    simp [putStore, HasHolder, HasObject]

@[simp] theorem hasClass_putStore (world : World) (holder : Holder) (s : AttributeStore)
    (c : ClassId) : (world.putStore holder s).HasClass c ↔ world.HasClass c :=
  hasHolder_putStore world holder (.object (.cls c)) s

theorem store_putStore_self {holder : Holder} (h : world.HasHolder holder) (s : AttributeStore) :
    (world.putStore holder s).store holder = s := by
  rcases holder with (_ | _ | _) | _ <;> simp only [HasHolder, HasObject] at h <;>
    simp [putStore, store, attributes, instanceObject, classObject, moduleObject,
      Array.getElem_modify, h]

theorem store_putStore_of_ne {holder other : Holder} (h : other ≠ holder) (s : AttributeStore) :
    (world.putStore holder s).store other = world.store other := by
  rcases holder with (⟨⟨i⟩⟩ | ⟨⟨i⟩⟩ | ⟨⟨i⟩⟩) | ⟨⟨i⟩⟩ <;>
    rcases other with (⟨⟨j⟩⟩ | ⟨⟨j⟩⟩ | ⟨⟨j⟩⟩) | ⟨⟨j⟩⟩ <;> try rfl
  all_goals
    have ne : i ≠ j := fun e => h (by rw [e])
    simp [putStore, store, attributes, instanceObject, classObject, moduleObject,
      Array.getElem?_modify, ne]

theorem classOf_putStore (world : World) (holder : Holder) (s : AttributeStore)
    (i : InstanceId) : (world.putStore holder s).classOf i = world.classOf i := by
  rcases holder with (⟨⟨j⟩⟩ | _ | _) | _ <;> try rfl
  simp only [putStore, classOf, instanceObject, Array.getD_eq_getD_getElem?, Array.getElem?_modify]
  split
  · cases world.instances[i.index]? <;> rfl
  · rfl

theorem superclass_putStore (world : World) (holder : Holder) (s : AttributeStore)
    (c : ClassId) : (world.putStore holder s).superclass c = world.superclass c := by
  rcases holder with (_ | ⟨⟨j⟩⟩ | _) | _ <;> try rfl
  simp only [putStore, superclass, classObject, Array.getD_eq_getD_getElem?, Array.getElem?_modify]
  split
  · cases world.classes[c.index]? <;> rfl
  · rfl

theorem currentAssumption_putStore (world : World) (holder : Holder) (s : AttributeStore)
    (c : ClassId) : (world.putStore holder s).currentAssumption c = world.currentAssumption c := by
  rcases holder with (_ | ⟨⟨j⟩⟩ | _) | _ <;> try rfl
  simp only [putStore, currentAssumption, classObject, Array.getD_eq_getD_getElem?,
    Array.getElem?_modify]
  split
  · cases world.classes[c.index]? <;> rfl
  · rfl

/-- A class whose layout is kept does not notice that a store is replaced. -/
theorem unmoved_putStore {holder : Holder} (h : world.HasHolder holder) {s : AttributeStore}
    (kept : holder = .object (.cls c) → s.shape = world.layout (.cls c)) :
    world.Unmoved (world.putStore holder s) c := by
  refine ⟨currentAssumption_putStore .., ?_, superclass_putStore ..⟩
  show ((world.putStore holder s).store (.object (.cls c))).shape = _
  by_cases e : holder = .object (.cls c)
  · rw [← e, store_putStore_self h]
    exact kept e
  · rw [store_putStore_of_ne (Ne.symm e)]
    rfl

/-! ## Renewing a token -/

theorem hasHolder_renewAssumption (world : World) (c : ClassId) (holder : Holder) :
    (world.renewAssumption c).2.HasHolder holder ↔ world.HasHolder holder := by
  rcases holder with (_ | _ | _) | _ <;>
    simp [renewAssumption, mint, putClass, invalidate, HasHolder, HasObject]

theorem hasAssumption_renewAssumption_iff (world : World) (c : ClassId) (a : Assumption) :
    (world.renewAssumption c).2.HasAssumption a ↔ world.HasAssumption a ∨ a = world.mint.1 := by
  rcases a with ⟨a⟩
  simp [renewAssumption, mint, putClass, invalidate, HasAssumption]
  omega

theorem classObject_renewAssumption_of_ne (h : d ≠ c) :
    (world.renewAssumption c).2.classObject d = world.classObject d := by
  have ne : c.index ≠ d.index := fun e => h (ClassId.ext e.symm)
  simp [renewAssumption, mint, putClass, invalidate, classObject, ne]

theorem classObject_renewAssumption_self (h : world.HasClass c) :
    (world.renewAssumption c).2.classObject c =
      { world.classObject c with assumption := world.mint.1 } := by
  have lt : c.index < world.classes.size := h
  simp [renewAssumption, mint, putClass, invalidate, classObject, lt]

theorem store_renewAssumption (h : world.HasClass c) (holder : Holder) :
    (world.renewAssumption c).2.store holder = world.store holder := by
  rcases holder with (_ | d | _) | _ <;> try rfl
  show ((world.renewAssumption c).2.classObject d).attributes = (world.classObject d).attributes
  by_cases e : d = c
  · rw [e, classObject_renewAssumption_self h]
  · rw [classObject_renewAssumption_of_ne e]

theorem superclass_renewAssumption (h : world.HasClass c) (d : ClassId) :
    (world.renewAssumption c).2.superclass d = world.superclass d := by
  unfold superclass
  by_cases e : d = c
  · rw [e, classObject_renewAssumption_self h]
  · rw [classObject_renewAssumption_of_ne e]

/-- A token that was there before is valid after a renewal if it was, and was not retired. -/
theorem holds_renewAssumption_iff (minted : world.HasAssumption a) :
    (world.renewAssumption c).2.holds a = true ↔
      world.holds a = true ∧ a ≠ world.currentAssumption c := by
  have lt : a.index < world.assumptions.size := minted
  have ne : a.index ≠ world.assumptions.size := Nat.ne_of_lt lt
  by_cases e : a = world.currentAssumption c
  · subst e
    simp [not_holds_renewAssumption]
  · have hne : (world.currentAssumption c).index ≠ a.index := fun h => e (Assumption.ext h.symm)
    simp [renewAssumption, mint, putClass, invalidate, holds, Array.getElem?_push, ne, hne, e]

/-- The token that a renewal mints is valid. -/
theorem holds_renewAssumption_fresh (minted : world.HasAssumption (world.currentAssumption c)) :
    (world.renewAssumption c).2.holds world.mint.1 = true := by
  have ne : (world.currentAssumption c).index ≠ world.assumptions.size := Nat.ne_of_lt minted
  simp [renewAssumption, mint, putClass, invalidate, holds, ne]

/-! ## Replacing a superclass -/

theorem classObject_putClass_self (h : world.HasClass c) (object : ClassObject) :
    (world.putClass c object).classObject c = object := by
  have lt : c.index < world.classes.size := h
  simp [putClass, classObject, lt]

theorem classObject_putClass_of_ne (h : d ≠ c) (object : ClassObject) :
    (world.putClass c object).classObject d = world.classObject d := by
  have ne : c.index ≠ d.index := fun e => h (ClassId.ext e.symm)
  simp [putClass, classObject, ne]

theorem hasHolder_putClass (world : World) (c : ClassId) (object : ClassObject)
    (holder : Holder) : (world.putClass c object).HasHolder holder ↔ world.HasHolder holder := by
  rcases holder with (_ | _ | _) | _ <;> simp [putClass, HasHolder, HasObject]

theorem store_putClass (h : world.HasClass c) {object : ClassObject}
    (kept : object.attributes = world.attributes (.cls c)) (holder : Holder) :
    (world.putClass c object).store holder = world.store holder := by
  rcases holder with (_ | d | _) | _ <;> try rfl
  show ((world.putClass c object).classObject d).attributes = (world.classObject d).attributes
  by_cases e : d = c
  · rw [e, classObject_putClass_self h, kept]
    rfl
  · rw [classObject_putClass_of_ne e]

end World

end InlineCache
