import InlineCache.Proofs.World.Writing
import InlineCache.Resolution
import Mathlib.Data.List.Chain
import Mathlib.Data.List.Nodup
import Mathlib.Data.List.Perm.Subperm
import Mathlib.Logic.Relation

/-!
# Lineages

Where no class is its own ancestor, the superclasses of a class form a finite list without
repetitions, its lineage. A lineage is cut off after as many classes as there are, and so never
before its end: it has all ancestors of its first class, and no search along it runs out of classes
to ask. A world stays without cycles if a class is created, or is given a superclass that does not
inherit from it; and whether one class inherits from another is decided along the lineage.

## Main definitions

* `World.Link`: a class and its superclass
* `World.Acyclic`: no class inherits from itself through its superclass
* `World.IsLineage`: the classes are all those from the first one up to a root

## Main results

* `inherits_iff_reflTransGen`: inheritance is the reflexive and transitive closure of the link
* `Acyclic.relink`: giving one class another superclass
* `Acyclic.newClass`, `Acyclic.setSuperclass`: the operations on the hierarchy keep it acyclic
* `Acyclic.isLineage_lineage`: a lineage is complete
* `Acyclic.wellFounded`: whoever follows the links comes to an end
* `Acyclic.isSubclassOf_iff`: the test decides inheritance
* `Acyclic.resolve_of_size_le`: a limit that exceeds the number of classes is none
-/

namespace InlineCache

namespace World

variable {world later : World} {a b c : ClassId} {first : Option ClassId} {fuel : Nat}

/-! ## Inheritance -/

/-- The superclass of `a` is `b`. -/
def Link (world : World) (a b : ClassId) : Prop := world.superclass a = some b

theorem inherits_iff_reflTransGen :
    world.Inherits a b ↔ Relation.ReflTransGen world.Link a b := by
  constructor
  · intro inherits
    induction inherits with
    | refl c => exact .refl
    | step link _ ih => exact .head link ih
  · intro chain
    induction chain using Relation.ReflTransGen.head_induction_on with
    | refl => exact .refl b
    | head link _ ih => exact .step link ih

theorem Inherits.hasClass (inherits : world.Inherits a b) (sound : world.Sound)
    (ha : world.HasClass a) : world.HasClass b := by
  induction inherits with
  | refl c => exact ha
  | step link _ ih => exact ih (sound.superclass _ ha _ link)

/-- No class inherits from itself through its superclass. -/
def Acyclic (world : World) : Prop :=
  ∀ a b, world.superclass a = some b → ¬ world.Inherits b a

theorem Acyclic.antisymm (acyclic : world.Acyclic) (up : world.Inherits a b)
    (down : world.Inherits b a) : a = b := by
  cases up with
  | refl => rfl
  | step link rest => exact absurd (rest.trans down) (acyclic _ _ link)

/-! ## Giving one class another superclass -/

section Relink

variable (others : ∀ d, d ≠ c → later.superclass d = world.superclass d)

include others

/-- On the way to the class all links are those that were there. -/
theorem Inherits.of_relinked (way : later.Inherits a c) : world.Inherits a c := by
  induction way with
  | refl c => exact .refl c
  | @step a b c link rest ih =>
    by_cases here : a = c
    · exact here ▸ .refl a
    · exact .step (others a here ▸ link) (ih others)

/-- Any other way either has only such links, or goes through the class. -/
theorem Inherits.cut_relinked (way : later.Inherits a b) :
    world.Inherits a b ∨
      later.Inherits a c ∧ ∃ s, later.superclass c = some s ∧ later.Inherits s b := by
  induction way with
  | refl b => exact .inl (.refl b)
  | @step a s b link rest ih =>
    by_cases here : a = c
    · subst here
      exact .inr ⟨.refl a, s, link, rest⟩
    · rcases ih with direct | ⟨before, after⟩
      · exact .inl (.step (others a here ▸ link) direct)
      · exact .inr ⟨.step link before, after⟩

/-- **A new superclass makes no cycle** unless it inherits from the class already. -/
theorem Acyclic.relink (acyclic : world.Acyclic)
    (guarded : ∀ s, later.superclass c = some s → ¬ world.Inherits s c) : later.Acyclic := by
  intro a b link cycle
  by_cases here : a = c
  · subst here
    exact guarded b link (cycle.of_relinked others)
  · -- the link is an old one, so the way back must go through the class
    have old : world.superclass a = some b := others a here ▸ link
    rcases cycle.cut_relinked others with direct | ⟨before, s, above, after⟩
    · exact acyclic a b old direct
    · have around : later.Inherits s c := after.trans (.step link before)
      exact guarded s above (around.of_relinked others)

end Relink

theorem Acyclic.congr (acyclic : world.Acyclic)
    (same : ∀ d, later.superclass d = world.superclass d) : later.Acyclic := by
  have back {a b : ClassId} (way : later.Inherits a b) : world.Inherits a b := by
    induction way with
    | refl c => exact .refl c
    | step link _ ih => exact .step (same _ ▸ link) ih
  intro a b link cycle
  exact acyclic a b (same a ▸ link) (back cycle)

theorem acyclic_empty : World.empty.Acyclic := by
  intro a b link
  have none : World.empty.superclass a = none := rfl
  rw [none] at link
  cases link

theorem superclass_newClass_of_ne {d : ClassId} (registry : RegistryId) (name : String)
    (superclass : Option ClassId) (ne : d ≠ ⟨world.classes.size⟩) :
    (world.newClass registry name superclass).2.superclass d = world.superclass d := by
  have ne : d.index ≠ world.classes.size := fun same => ne (ClassId.ext same)
  simp [World.superclass, classObject, newClass, mint, Array.getElem?_push, ne]

/-- A new class is nobody's ancestor. -/
theorem Acyclic.newClass (acyclic : world.Acyclic) (sound : world.Sound) (registry : RegistryId)
    (name : String) {superclass : Option ClassId} (hs : ∀ b ∈ superclass, world.HasClass b) :
    (world.newClass registry name superclass).2.Acyclic := by
  apply acyclic.relink fun d => superclass_newClass_of_ne registry name superclass
  intro s link inherits
  rw [World.superclass, classObject_newClass_self] at link
  have created := inherits.hasClass sound (hs s link)
  exact Nat.lt_irrefl _ created

/-! ## Lineages -/

theorem eq_some_of_head?_lineageWithin (h : c ∈ (world.lineageWithin fuel first).head?) :
    first = some c := by
  cases fuel with
  | zero => simp [lineageWithin] at h
  | succ fuel =>
    cases first with
    | none => simp [lineageWithin] at h
    | some b => simpa [lineageWithin] using h

/-- Every class of a lineage is followed by its superclass. -/
theorem isChain_lineageWithin (world : World) (fuel : Nat) (first : Option ClassId) :
    (world.lineageWithin fuel first).IsChain fun a b => world.superclass a = some b := by
  induction fuel generalizing first with
  | zero => exact .nil
  | succ fuel ih =>
    cases first with
    | none => exact .nil
    | some c =>
      rw [lineageWithin, List.isChain_cons]
      exact ⟨fun b hb => eq_some_of_head?_lineageWithin hb, ih _⟩

theorem hasClass_of_mem_lineageWithin (sound : world.Sound)
    (created : ∀ c ∈ first, world.HasClass c) (mem : c ∈ world.lineageWithin fuel first) :
    world.HasClass c := by
  induction fuel generalizing first with
  | zero => simp [lineageWithin] at mem
  | succ fuel ih =>
    cases first with
    | none => simp [lineageWithin] at mem
    | some b =>
      rw [lineageWithin, List.mem_cons] at mem
      have hb : world.HasClass b := created b rfl
      rcases mem with rfl | mem
      · exact hb
      · exact ih (sound.superclass b hb) mem

@[simp] theorem lineageWithin_none (world : World) (fuel : Nat) :
    world.lineageWithin fuel none = [] := by
  cases fuel <;> rfl

theorem Acyclic.nodup_lineageWithin (acyclic : world.Acyclic) (fuel : Nat)
    (first : Option ClassId) : (world.lineageWithin fuel first).Nodup := by
  induction fuel generalizing first with
  | zero => exact List.nodup_nil
  | succ fuel ih =>
    cases first with
    | none => exact List.nodup_nil
    | some c =>
      rw [lineageWithin, List.nodup_cons]
      refine ⟨?_, ih _⟩
      intro mem
      cases link : world.superclass c with
      | none => simp [link] at mem
      | some b => exact acyclic c b link (inherits_of_mem_lineage (link ▸ mem))

/-- No lineage is longer than there are classes, however long one looks. -/
theorem Acyclic.length_lineageWithin_le (acyclic : world.Acyclic) (sound : world.Sound)
    (created : ∀ c ∈ first, world.HasClass c) (fuel : Nat) :
    (world.lineageWithin fuel first).length ≤ world.classes.size := by
  have nodup : ((world.lineageWithin fuel first).map ClassId.index).Nodup :=
    (acyclic.nodup_lineageWithin fuel first).map fun _ _ => ClassId.ext
  have within : (world.lineageWithin fuel first).map ClassId.index ⊆
      List.range world.classes.size := by
    intro index mem
    obtain ⟨c, listed, rfl⟩ := List.mem_map.1 mem
    exact List.mem_range.2 (hasClass_of_mem_lineageWithin sound created listed)
  simpa using (nodup.subperm within).length_le

/-- A lineage that ends before it is cut off is not cut off. -/
theorem lineageWithin_succ_of_length_le
    (short : (world.lineageWithin (fuel + 1) first).length ≤ fuel) :
    world.lineageWithin (fuel + 1) first = world.lineageWithin fuel first := by
  induction fuel generalizing first with
  | zero => exact List.eq_nil_of_length_eq_zero (Nat.le_zero.1 short)
  | succ fuel ih =>
    cases first with
    | none => rfl
    | some c =>
      rw [lineageWithin, List.length_cons] at short
      rw [lineageWithin, ih (Nat.le_of_succ_le_succ short)]
      rfl

@[simp] theorem lineage_none (world : World) : world.lineage none = [] :=
  lineageWithin_none world _

/-- **The lineage of a class** is the class and the lineage of its superclass. -/
theorem Acyclic.lineage_some (acyclic : world.Acyclic) (sound : world.Sound)
    (hc : world.HasClass c) :
    world.lineage (some c) = c :: world.lineage (world.superclass c) := by
  have created : ∀ b ∈ some c, world.HasClass b := by
    rintro b ⟨⟩
    exact hc
  have short := acyclic.length_lineageWithin_le sound created (world.classes.size + 1)
  rw [lineage, ← lineageWithin_succ_of_length_le short]
  rfl

/-- The classes are all those that one comes to from the first one, up to a class without
superclass, and none occurs twice. -/
structure IsLineage (world : World) (first : Option ClassId) (classes : List ClassId) : Prop where
  head : classes.head? = first
  linked : classes.IsChain world.Link
  root : ∀ last ∈ classes.getLast?, world.superclass last = none
  nodup : classes.Nodup

/-- **A lineage is complete**, and finite. -/
theorem Acyclic.isLineage_lineage (acyclic : world.Acyclic) (sound : world.Sound)
    (created : ∀ c ∈ first, world.HasClass c) :
    world.IsLineage first (world.lineage first) where
  head := by
    cases first with
    | none => simp
    | some c => rw [acyclic.lineage_some sound (created c rfl), List.head?_cons]
  linked := isChain_lineageWithin world _ first
  nodup := acyclic.nodup_lineageWithin _ first
  root := by
    -- Induction on the lineage: its last class is that of the lineage of the superclass.
    generalize all : world.lineage first = classes
    induction classes generalizing first with
    | nil => exact nofun
    | cons d rest ih =>
      cases first with
      | none => simp at all
      | some c =>
        have hc := created c rfl
        rw [acyclic.lineage_some sound hc, List.cons.injEq] at all
        obtain ⟨rfl, above⟩ := all
        cases rest with
        | nil =>
          intro last mem
          obtain rfl : c = last := by simpa using mem
          cases link : world.superclass c with
          | none => rfl
          | some b =>
            have hb := sound.superclass c hc b link
            rw [link, acyclic.lineage_some sound hb] at above
            cases above
        | cons e rest => exact ih (sound.superclass c hc) above

theorem superclass_of_not_hasClass (absent : ¬ world.HasClass c) : world.superclass c = none := by
  have beyond : world.classes.size ≤ c.index := Nat.le_of_not_lt absent
  rw [superclass, classObject, Array.getD_eq_getD_getElem?, Array.getElem?_eq_none beyond]
  rfl

/-- **Whoever follows the links comes to an end**: every step leaves a shorter lineage. -/
theorem Acyclic.wellFounded (acyclic : world.Acyclic) (sound : world.Sound) :
    WellFounded fun b a => world.Link a b := by
  apply Subrelation.wf _ (measure fun c => (world.lineage (some c)).length).wf
  intro b a link
  have ha : world.HasClass a := by
    by_contra absent
    cases (superclass_of_not_hasClass absent).symm.trans link
  show (world.lineage (some b)).length < (world.lineage (some a)).length
  rw [acyclic.lineage_some sound ha, show world.superclass a = some b from link, List.length_cons]
  exact Nat.lt_succ_self _

theorem Acyclic.mem_lineage_of_inherits (acyclic : world.Acyclic) (sound : world.Sound)
    (ha : world.HasClass a) (inherits : world.Inherits a b) :
    b ∈ world.lineage (some a) := by
  induction inherits with
  | refl c =>
    rw [acyclic.lineage_some sound ha]
    exact List.mem_cons_self
  | @step a s b link rest ih =>
    rw [acyclic.lineage_some sound ha, link]
    exact List.mem_cons_of_mem _ (ih (sound.superclass a ha s link))

/-- **The test decides inheritance.** -/
theorem Acyclic.isSubclassOf_iff (acyclic : world.Acyclic) (sound : world.Sound)
    (ha : world.HasClass a) : world.isSubclassOf a b = true ↔ world.Inherits a b := by
  refine ⟨inherits_of_isSubclassOf, ?_⟩
  intro inherits
  rw [isSubclassOf, Bool.or_eq_true, beq_iff_eq, List.contains_iff_mem]
  cases inherits with
  | refl => exact .inl rfl
  | @step _ s _ link rest =>
    right
    rw [link]
    exact acyclic.mem_lineage_of_inherits sound (sound.superclass a ha s link) rest

/-! ## Changes of superclass -/

theorem superclass_rewired_of_ne {superclass : Option ClassId} {d : ClassId}
    (hc : world.HasClass c) (ne : d ≠ c) :
    ((world.rewired c superclass).renewAssumption c).2.superclass d = world.superclass d := by
  have hc' : (world.rewired c superclass).HasClass c :=
    (hasHolder_putClass _ _ _ (.object (.cls c))).2 hc
  rw [superclass_renewAssumption hc']
  exact congrArg ClassObject.superclass (classObject_putClass_of_ne ne _)

theorem superclass_rewired_self {superclass : Option ClassId} (hc : world.HasClass c) :
    ((world.rewired c superclass).renewAssumption c).2.superclass c = superclass := by
  have hc' : (world.rewired c superclass).HasClass c :=
    (hasHolder_putClass _ _ _ (.object (.cls c))).2 hc
  rw [superclass_renewAssumption hc']
  exact congrArg ClassObject.superclass (classObject_putClass_self hc _)

/-- A change that is carried out makes no cycle, since the test has found none. -/
theorem Acyclic.setSuperclass (acyclic : world.Acyclic) (sound : world.Sound)
    (hc : world.HasClass c) {superclass : Option ClassId}
    (hs : ∀ b ∈ superclass, world.HasClass b) {step : Step Unit}
    (done : world.setSuperclass c superclass = .ok step) : step.world.Acyclic := by
  rw [setSuperclass_eq_ok done]
  apply acyclic.relink fun d ne => superclass_rewired_of_ne hc ne
  intro s link inherits
  rw [superclass_rewired_self hc] at link
  have tested := (acyclic.isSubclassOf_iff sound (hs s link)).2 inherits
  obtain ⟨e, refused⟩ := setSuperclass_eq_error_iff.2 ⟨s, link, tested⟩
  cases done.symm.trans refused

/-! ## Searching along a lineage -/

/-- A search with a budget for all classes does not depend on the budget, and does not spend it. -/
theorem walk_of_length_le (world : World) (name : String) {budget : Nat} {classes : List ClassId}
    (enough : classes.length ≤ budget) :
    world.walk name budget classes = world.walk name classes.length classes ∧
      world.walk name budget classes ≠ .error .tooDeep := by
  induction classes generalizing budget with
  | nil => simp [walk]
  | cons c rest ih =>
    cases budget with
    | zero => exact absurd enough (Nat.not_succ_le_zero _)
    | succ budget =>
      obtain ⟨same, deep⟩ := ih (Nat.le_of_succ_le_succ enough)
      rw [List.length_cons, walk, walk, ← same]
      refine ⟨rfl, ?_⟩
      cases world.lookupOwn (.cls c) name with
      | some slot => simp
      | none =>
        cases found : world.walk name budget rest with
        | ok found => simp
        | error absence => simpa [found] using deep

theorem Acyclic.resolveInherited_of_size_le (acyclic : world.Acyclic) (sound : world.Sound)
    (created : ∀ c ∈ first, world.HasClass c) {limit : Nat} (enough : world.classes.size ≤ limit)
    (receiver : ObjectId) (name : String) (check : ReceiverCheck) :
    world.resolveInherited limit receiver name check first =
        world.resolveInherited world.classes.size receiver name check first ∧
      ∀ n m, world.resolveInherited limit receiver name check first ≠
        .error (.invalidState (.hierarchyTooDeep n m)) := by
  have bound : (world.lineage first).length ≤ world.classes.size :=
    acyclic.length_lineageWithin_le sound created _
  obtain ⟨same, deep⟩ := world.walk_of_length_le name (bound.trans enough)
  obtain ⟨same', -⟩ := world.walk_of_length_le name bound
  rw [resolveInherited, resolveInherited, same', ← same]
  cases found : world.walk name limit (world.lineage first) with
  | ok found => simp
  | error absence =>
    cases absence with
    | exhausted => simp
    | tooDeep => exact absurd found deep

/-- **A limit that exceeds the number of classes is none**: no name takes a longer search. -/
theorem Acyclic.resolve_of_size_le (acyclic : world.Acyclic) (sound : world.Sound)
    {receiver : ObjectId} (hr : world.HasObject receiver) {limit : Nat}
    (enough : world.classes.size ≤ limit) (name : String) :
    world.resolve limit receiver name = world.resolve world.classes.size receiver name ∧
      ∀ n m, world.resolve limit receiver name ≠
        .error (.invalidState (.hierarchyTooDeep n m)) := by
  unfold resolve
  cases world.lookupOwn receiver name with
  | some slot => simp
  | none =>
    rcases receiver with i | c | m
    · apply acyclic.resolveInherited_of_size_le sound _ enough
      rintro c ⟨⟩
      exact sound.classOf i hr
    · exact acyclic.resolveInherited_of_size_le sound (sound.superclass c hr) enough ..
    · simp

end World

end InlineCache
