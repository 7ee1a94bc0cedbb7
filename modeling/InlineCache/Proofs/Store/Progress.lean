import InlineCache.Proofs.Store.Kinds
import Mathlib.Data.List.Dedup
import Mathlib.Data.List.Perm.Subperm
import Mathlib.Data.List.ProdSigma

/-!
# Layouts move one way

A write either leaves the layout of a store alone or makes it heavier, where a boxed slot weighs
more than a primitive one: a new name brings a slot, and a widened slot is boxed. Widening lays all
names out anew, possibly in shapes that were published long ago, and through whatever registry; but
the weight tells that none of them is a shape that the store has left. A name that was added is
there for good, and a name that was widened is boxed for good, so either happens to it at most once.

## Main definitions

* `AttributeStore.kind?`: the kind of the slot of a name
* `ShapeSpace.weigh`, `Shape.weight`: the weight of a layout
* `AttributeStore.Advances`: what a write under a name does to the layout
* `AttributeStore.Trace`: a run of writes with their outcomes

## Main results

* `Fits.set_advances`: a write advances the layout
* `Trace.shape_eq_or_weight_lt`: after a run the layout is the same, or heavier
* `Trace.count_added`, `Trace.count_widened_le`: how often a name is added or widened
* `Trace.changes_le`: how many writes changed the layout
-/

namespace InlineCache

/-! ## Weights -/

/-- The weight of a slot. -/
def Kind.weight (kind : Kind) : Nat := if kind.isPrimitive then 1 else 2

theorem Kind.weight_pos (kind : Kind) : 0 < kind.weight := by
  cases kind <;> decide

theorem Kind.weight_le_boxed (kind : Kind) : kind.weight ≤ boxed.weight := by
  cases kind <;> decide

theorem Kind.weight_lt_boxed {kind : Kind} (primitive : kind.isPrimitive = true) :
    kind.weight < boxed.weight := by
  rw [weight, if_pos primitive]
  decide

namespace ShapeSpace

variable {signature : List (String × Kind)} {name other : String} {kind : Kind}

/-- The weight of a signature: that of its slots together. -/
def weigh : List (String × Kind) → Nat
  | [] => 0
  | entry :: rest => entry.2.weight + weigh rest

theorem weigh_append (first second : List (String × Kind)) :
    weigh (first ++ second) = weigh first + weigh second := by
  induction first with
  | nil => exact (Nat.zero_add _).symm
  | cons entry rest ih => rw [List.cons_append, weigh, ih, weigh, Nat.add_assoc]

theorem boxing_cons (name : String) (entry : String × Kind) (rest : List (String × Kind)) :
    boxing name (entry :: rest) =
      (if entry.1 = name then (entry.1, .boxed) else entry) :: boxing name rest :=
  List.map_cons

theorem weight_le_boxed_entry (name : String) (entry : String × Kind) :
    entry.2.weight ≤ (if entry.1 = name then (entry.1, Kind.boxed) else entry).2.weight := by
  split
  · exact Kind.weight_le_boxed _
  · exact Nat.le_refl _

theorem weigh_le_boxing (name : String) (signature : List (String × Kind)) :
    weigh signature ≤ weigh (boxing name signature) := by
  induction signature with
  | nil => exact Nat.le_refl _
  | cons entry rest ih =>
    rw [boxing_cons, weigh, weigh]
    exact Nat.add_le_add (weight_le_boxed_entry name entry) ih

/-- Boxing a primitive slot makes a signature heavier. -/
theorem weigh_lt_boxing (mem : (name, kind) ∈ signature) (primitive : kind.isPrimitive = true) :
    weigh signature < weigh (boxing name signature) := by
  induction signature with
  | nil => cases mem
  | cons entry rest ih =>
    rw [boxing_cons, weigh, weigh]
    rcases List.mem_cons.1 mem with rfl | mem
    · rw [if_pos rfl]
      exact Nat.add_lt_add_of_lt_of_le (Kind.weight_lt_boxed primitive) (weigh_le_boxing name rest)
    · exact Nat.add_lt_add_of_le_of_lt (weight_le_boxed_entry name entry) (ih mem)

theorem mem_boxing_self (mem : (name, kind) ∈ signature) :
    (name, .boxed) ∈ boxing name signature :=
  List.mem_map.2 ⟨(name, kind), mem, if_pos rfl⟩

theorem mem_boxing_of_ne (ne : other ≠ name) :
    (other, kind) ∈ boxing name signature ↔ (other, kind) ∈ signature := by
  rw [boxing, List.mem_map]
  constructor
  · rintro ⟨entry, mem, same⟩
    split at same
    · next here =>
      cases same
      exact absurd here ne
    · exact same ▸ mem
  · exact fun mem => ⟨_, mem, if_neg ne⟩

end ShapeSpace

/-- The weight of a layout. -/
def Shape.weight (shape : Shape) : Nat := ShapeSpace.weigh shape.signature

namespace AttributeStore

/-! ## One write -/

/-- The kind of the slot of a name. -/
def kind? (store : AttributeStore) (name : String) : Option Kind :=
  (store.location? name).map Location.kind

/-- No name of the store is gone in the later one. Every slot has the kind that it had, or was a
primitive one and is boxed. -/
def Boxes (store later : AttributeStore) : Prop :=
  ∀ name kind, store.kind? name = some kind →
    later.kind? name = some kind ∨ kind.isPrimitive = true ∧ later.kind? name = some .boxed

/-- What a write under the name does to the layout of the store: it leaves the layout alone, or
makes it heavier. -/
structure Advances (store : AttributeStore) (name : String) (outcome : WriteOutcome)
    (later : AttributeStore) : Prop where
  shape_eq : outcome.changedShape = false → later.shape = store.shape
  weight_lt : outcome.changedShape = true → store.shape.weight < later.shape.weight
  added_iff : outcome = .added ↔ store.kind? name = none
  primitive : outcome = .widened → ∃ kind, store.kind? name = some kind ∧ kind.isPrimitive = true
  boxed : outcome = .widened → later.kind? name = some .boxed
  present : later.kind? name ≠ none
  boxes : store.Boxes later
  others : ∀ other, other ≠ name → later.kind? other = store.kind? other

variable {store between later : AttributeStore} {space : ShapeSpace} {registry : RegistryId}
  {name : String} {value : Value} {kind : Kind} {location : Location} {outcome : WriteOutcome}
  {writes : List (String × WriteOutcome)}

theorem Boxes.refl (store : AttributeStore) : store.Boxes store := fun _ _ => .inl

/-- A boxed slot is boxed for good. -/
theorem Boxes.trans (first : store.Boxes between) (second : between.Boxes later) :
    store.Boxes later := by
  intro name kind before
  rcases first name kind before with same | ⟨primitive, boxed⟩
  · exact second name kind same
  · rcases second name _ boxed with still | ⟨absurd, -⟩
    · exact .inr ⟨primitive, still⟩
    · cases absurd

/-- A write that leaves the layout alone goes in place. -/
theorem Advances.shape_eq_iff (advances : store.Advances name outcome later) :
    later.shape = store.shape ↔ outcome = .inPlace := by
  rw [← WriteOutcome.changedShape_eq_false_iff]
  constructor
  · intro same
    rw [Bool.eq_false_iff]
    intro changed
    have heavier := advances.weight_lt changed
    rw [same] at heavier
    exact Nat.lt_irrefl _ heavier
  · exact advances.shape_eq

theorem kind?_eq_none_iff : store.kind? name = none ↔ store.contains name = false := by
  rw [kind?, location?, contains, Shape.contains]
  simp

theorem mem_signature_of_location? (found : store.location? name = some location) :
    (name, location.kind) ∈ store.shape.signature :=
  List.mem_map_of_mem (Shape.mem_properties_of_find? found)

theorem Fits.kind?_eq_some_iff (fits : store.Fits) :
    store.kind? name = some kind ↔ (name, kind) ∈ store.shape.signature := by
  rw [kind?, Option.map_eq_some_iff]
  constructor
  · rintro ⟨location, found, rfl⟩
    exact mem_signature_of_location? found
  · intro mem
    obtain ⟨p, hp, same⟩ := List.mem_map.1 mem
    obtain ⟨rfl, rfl⟩ := Prod.mk.inj same
    exact ⟨p.location, Shape.find?_of_mem_properties fits.nodup hp, rfl⟩

theorem outcome_eq_added_iff :
    (store.set space registry name value).outcome = .added ↔ store.kind? name = none := by
  rw [set_outcome, kind?]
  cases store.location? name with
  | none => simp
  | some location =>
    dsimp only
    split <;> simp

/-- A write widens a slot exactly if the name has a primitive slot of another kind. -/
theorem outcome_eq_widened_iff :
    (store.set space registry name value).outcome = .widened ↔
      ∃ location, store.location? name = some location ∧ location.kind.isPrimitive = true ∧
        location.kind ≠ value.kind := by
  rw [set_outcome]
  cases store.location? name with
  | none => simp
  | some location =>
    simp only [Option.some.injEq, exists_eq_left', ← Kind.not_accepts_iff]
    split
    · next accepts => simp [accepts]
    · next refused => simp [refused]

section Set

variable (fits : store.Fits) (sound : space.Sound) (hr : registry.index < space.registries.size)
  (published : space.Published store.shape)

include fits sound hr published

/-- The slot of the written name has the least kind that takes what it held and the new value. -/
theorem Fits.kind?_set_self (name : String) (value : Value) :
    (store.set space registry name value).store.kind? name =
      some (match store.kind? name with
        | none => value.kind
        | some kind => kind.join value.kind) := by
  have later := (fits.set_assigns sound hr published name value).fits
  rw [later.kind?_eq_some_iff, signature_of_set sound hr published, kind?]
  cases found : store.location? name with
  | none => exact List.mem_append_right _ (List.mem_singleton_self _)
  | some location =>
    have mem := mem_signature_of_location? found
    simp only [Option.map_some]
    by_cases accepts : location.kind.accepts value.kind = true
    · rwa [if_pos accepts, Kind.accepts_iff_join.1 accepts]
    · have differ := (Kind.not_accepts_iff.1 accepts).2
      rw [if_neg accepts, Kind.join, if_neg differ]
      exact ShapeSpace.mem_boxing_self mem

/-- Any other slot has the kind that it had. -/
theorem Fits.kind?_set_of_ne {other : String} (ne : other ≠ name) (value : Value) :
    (store.set space registry name value).store.kind? other = store.kind? other := by
  have later := (fits.set_assigns sound hr published name value).fits
  refine Option.ext fun kind => ?_
  rw [later.kind?_eq_some_iff, fits.kind?_eq_some_iff, signature_of_set sound hr published]
  cases store.location? name with
  | none => simp [ne]
  | some location =>
    dsimp only
    split
    · rfl
    · exact ShapeSpace.mem_boxing_of_ne ne

omit fits in
/-- A write that changes the layout makes it heavier. -/
theorem weight_lt_set (changed :
      (store.set space registry name value).outcome.changedShape = true) :
    store.shape.weight < (store.set space registry name value).store.shape.weight := by
  rw [Shape.weight, Shape.weight, signature_of_set sound hr published]
  rw [set_outcome] at changed
  cases found : store.location? name with
  | none =>
    rw [ShapeSpace.weigh_append]
    exact Nat.lt_add_of_pos_right (Kind.weight_pos _)
  | some location =>
    rw [found] at changed
    dsimp only at changed ⊢
    by_cases accepts : location.kind.accepts value.kind = true
    · rw [if_pos accepts] at changed
      cases changed
    · have primitive := (Kind.not_accepts_iff.1 accepts).1
      rw [if_neg accepts]
      exact ShapeSpace.weigh_lt_boxing (mem_signature_of_location? found) primitive

/-- A write takes no name away, and changes the kind of no slot but that of a primitive one, which
it boxes. -/
theorem Fits.boxes_set (name : String) (value : Value) :
    store.Boxes (store.set space registry name value).store := by
  intro other kind before
  by_cases same : other = name
  · subst same
    rw [fits.kind?_set_self sound hr published, before]
    rcases kind.join_eq_or value.kind with kept | ⟨primitive, boxed⟩
    · exact .inl (congrArg some kept)
    · exact .inr ⟨primitive, congrArg some boxed⟩
  · exact .inl ((fits.kind?_set_of_ne sound hr published same value).trans before)

/-- **A write advances the layout.** -/
theorem Fits.set_advances (name : String) (value : Value) :
    store.Advances name (store.set space registry name value).outcome
      (store.set space registry name value).store := by
  have self := fits.kind?_set_self sound hr published name value
  refine
    { shape_eq := fun kept =>
        shape_set_of_inPlace (WriteOutcome.changedShape_eq_false_iff.1 kept)
      weight_lt := weight_lt_set sound hr published
      added_iff := outcome_eq_added_iff
      primitive := fun widened => ?_
      boxed := fun widened => ?_
      present := self ▸ Option.some_ne_none _
      boxes := fits.boxes_set sound hr published name value
      others := fun other ne => fits.kind?_set_of_ne sound hr published ne value }
  · obtain ⟨location, found, primitive, -⟩ := outcome_eq_widened_iff.1 widened
    exact ⟨location.kind, by rw [kind?, found, Option.map_some], primitive⟩
  · obtain ⟨location, found, -, differ⟩ := outcome_eq_widened_iff.1 widened
    rw [self, kind?, found]
    exact congrArg some (if_neg differ)

end Set

/-! ## Runs of writes -/

/-- A run of writes, each under a name and with an outcome, leads from a store to a later one. -/
inductive Trace : AttributeStore → List (String × WriteOutcome) → AttributeStore → Prop where
  /-- No write. -/
  | refl (store : AttributeStore) : Trace store [] store
  /-- A write, and the run from there. -/
  | write {store between later : AttributeStore} {name : String} {outcome : WriteOutcome}
      {writes : List (String × WriteOutcome)} (first : store.Advances name outcome between)
      (rest : Trace between writes later) : Trace store ((name, outcome) :: writes) later

namespace Trace

/-- After a run no name is gone, and slots are boxed at most. -/
theorem boxes (trace : Trace store writes later) : store.Boxes later := by
  induction trace with
  | refl store => exact .refl store
  | write first rest ih => exact first.boxes.trans ih

/-- **After a run the layout is the same, or heavier.** -/
theorem shape_eq_or_weight_lt (trace : Trace store writes later) :
    later.shape = store.shape ∨ store.shape.weight < later.shape.weight := by
  induction trace with
  | refl store => exact .inl rfl
  | @write store between later name outcome writes first rest ih =>
    cases changed : outcome.changedShape with
    | false => rwa [first.shape_eq changed] at ih
    | true =>
      -- what the first write has made heavier does not become lighter
      have heavier := first.weight_lt changed
      rcases ih with same | lt
      · exact .inr (same ▸ heavier)
      · exact .inr (Nat.lt_trans heavier lt)

/-- **A name is added once**, by the first write under it, unless it was there before. -/
theorem count_added (trace : Trace store writes later) (name : String) :
    writes.count (name, .added) =
      if store.kind? name = none ∧ name ∈ writes.map Prod.fst then 1 else 0 := by
  induction trace with
  | refl store => simp
  | @write store between later other outcome writes first rest ih =>
    by_cases same : name = other
    · subst same
      have again : ¬ (between.kind? name = none ∧ name ∈ writes.map Prod.fst) :=
        fun both => first.present both.1
      rw [List.count_cons, ih, if_neg again, Nat.zero_add]
      refine if_congr ?_ rfl rfl
      simp [first.added_iff]
    · have elsewhere : (name, WriteOutcome.added) ≠ (other, outcome) :=
        fun pair => same (Prod.mk.inj pair).1
      rw [List.count_cons_of_ne elsewhere.symm, ih]
      refine if_congr ?_ rfl rfl
      simp [first.others name same, same]

/-- **A name is widened at most once**, and not at all if its slot is boxed. -/
theorem count_widened_le (trace : Trace store writes later) (name : String) :
    writes.count (name, .widened) ≤ if store.kind? name = some .boxed then 0 else 1 := by
  induction trace with
  | refl store => exact Nat.zero_le _
  | @write store between later other outcome writes first rest ih =>
    by_cases here : (other, outcome) = (name, .widened)
    · obtain ⟨rfl, rfl⟩ := Prod.mk.inj here
      obtain ⟨kind, before, primitive⟩ := first.primitive rfl
      have unboxed : store.kind? other ≠ some .boxed := by
        rw [before, Ne, Option.some.injEq]
        exact Kind.isPrimitive_iff.1 primitive
      rw [if_pos (first.boxed rfl)] at ih
      rw [List.count_cons_self, if_neg unboxed]
      exact Nat.succ_le_succ ih
    · rw [List.count_cons_of_ne here]
      refine Nat.le_trans ih ?_
      by_cases before : store.kind? name = some .boxed
      · have still : between.kind? name = some .boxed := by
          rcases first.boxes name _ before with same | ⟨absurd, -⟩
          · exact same
          · cases absurd
        exact Nat.le_of_eq (by rw [if_pos before, if_pos still])
      · rw [if_neg before]
        split <;> omega

/-- **The writes that change the layout** are at most two for each name. -/
theorem changes_le (trace : Trace store writes later) :
    (writes.countP fun write => write.2.changedShape) ≤
      2 * (writes.map Prod.fst).dedup.length := by
  -- They are all different, and each adds or widens a name that is written.
  have once : (writes.filter fun write => write.2.changedShape).Nodup := by
    rw [List.nodup_iff_count_le_one]
    rintro ⟨name, outcome⟩
    cases outcome with
    | inPlace =>
      rw [List.count_eq_zero_of_not_mem fun mem => ?_]
      · exact Nat.zero_le _
      · cases (List.mem_filter.1 mem).2
    | added =>
      rw [List.count_filter rfl, trace.count_added]
      split <;> omega
    | widened =>
      rw [List.count_filter rfl]
      refine Nat.le_trans (trace.count_widened_le name) ?_
      split <;> omega
  have among : (writes.filter fun write => write.2.changedShape) ⊆
      (writes.map Prod.fst).dedup ×ˢ [WriteOutcome.added, .widened] := by
    rintro ⟨name, outcome⟩ mem
    obtain ⟨written, changed⟩ := List.mem_filter.1 mem
    rw [List.mem_product, List.mem_dedup]
    refine ⟨List.mem_map_of_mem written, ?_⟩
    cases outcome with
    | inPlace => cases changed
    | added => exact List.mem_cons_self
    | widened => exact List.mem_cons_of_mem _ (List.mem_singleton_self _)
  calc (writes.countP fun write => write.2.changedShape)
      = (writes.filter fun write => write.2.changedShape).length := List.countP_eq_length_filter
    _ ≤ ((writes.map Prod.fst).dedup ×ˢ [WriteOutcome.added, .widened]).length :=
        (List.subperm_of_subset once among).length_le
    _ = 2 * (writes.map Prod.fst).dedup.length := by rw [List.length_product, Nat.mul_comm]; rfl

end Trace

end AttributeStore

end InlineCache
