import InlineCache.Proofs.Shape.Canonical
import InlineCache.Proofs.Shape.Numbering
import Mathlib.Data.List.Forall2

/-!
# Widening a name

A name is widened if its newest slot is a primitive one; widening boxes every entry of the name, and
leaves the others as they are. So a name is not widened twice, and two names may be widened in
either order: what is widened under the one name is no matter of the other.

## Main definitions

* `Shape.Widenable`: the newest slot of the name is primitive
* `Property.Reboxed`: an entry is as before, or boxed

## Main results

* `widenable_of_boxing`: boxing a name leaves the others widenable
* `boxing_comm`: names are boxed in either order
* `Sound.widen_signature`, `Sound.widen_origin`: what a widening hands out
* `forall₂_reboxed`: entry by entry, what is boxed and what is not
-/

namespace InlineCache

/-- The later entry has the name of the earlier one. It is boxed if this is the widened name, and
has the kind of the earlier one otherwise. -/
def Property.Reboxed (name : String) (p q : Property) : Prop :=
  q.name = p.name ∧ q.location.kind = if p.name = name then .boxed else p.location.kind

namespace Shape

variable {shape base : Shape} {name other : String}

/-- The newest slot of the name is a primitive one. -/
def Widenable (shape : Shape) (name : String) : Prop :=
  ∃ location, shape.find? name = some location ∧ location.kind.isPrimitive = true

instance (shape : Shape) (name : String) : Decidable (shape.Widenable name) :=
  decidable_of_iff ((shape.find? name).any fun location => location.kind.isPrimitive)
    (Option.any_eq_true _ _)

theorem widenable_extend {parent : Shape} {serial id : Nat} {added : String} {kind : Kind}
    {slots : SlotCounts} :
    (extend parent serial id added kind slots).Widenable name ↔
      if added = name then kind.isPrimitive = true else parent.Widenable name := by
  unfold Widenable
  rw [find?]
  split <;> simp

/-- **Boxing a name** leaves the others widenable, and this one not. -/
theorem widenable_of_boxing (boxed : shape.signature = ShapeSpace.boxing name base.signature) :
    shape.Widenable other ↔ other ≠ name ∧ base.Widenable other := by
  induction shape generalizing base with
  | empty serial =>
    cases base with
    | empty serial' => simp [Widenable, find?]
    | extend => simp [ShapeSpace.boxing] at boxed
  | extend parent serial id added kind slots ih =>
    cases base with
    | empty serial' => simp [ShapeSpace.boxing] at boxed
    | extend parent' serial' id' added' kind' slots' =>
      rw [signature_extend, signature_extend, ShapeSpace.boxing, List.map_append] at boxed
      obtain ⟨before, last⟩ := List.append_inj' boxed rfl
      obtain ⟨rfl, rfl⟩ : added = added' ∧ kind = if added' = name then .boxed else kind' := by
        by_cases here : added' = name <;> simpa [here] using last
      rw [widenable_extend, widenable_extend]
      by_cases newest : added = other
      · subst newest
        by_cases here : added = name <;> simp [here]
      · simpa [newest] using ih before

/-- **Entry by entry**, a boxed signature is reboxed. -/
theorem forall₂_reboxed (boxed : shape.signature = ShapeSpace.boxing name base.signature) :
    List.Forall₂ (Property.Reboxed name) base.properties shape.properties := by
  have entries : List.Forall₂
      (fun p q : Property =>
        (if p.name = name then (p.name, .boxed) else (p.name, p.location.kind)) =
          (q.name, q.location.kind)) base.properties shape.properties := by
    rw [← List.forall₂_map_right_iff (f := fun q : Property => (q.name, q.location.kind)),
      ← List.forall₂_map_left_iff, List.forall₂_eq_eq_eq]
    rw [signature, signature, ShapeSpace.boxing, List.map_map] at boxed
    exact boxed.symm
  refine entries.imp fun p q same => ?_
  by_cases here : p.name = name
  · rw [if_pos here] at same
    exact ⟨(Prod.mk.inj same).1.symm, by rw [if_pos here, ← (Prod.mk.inj same).2]⟩
  · rw [if_neg here] at same
    exact ⟨(Prod.mk.inj same).1.symm, by rw [if_neg here, ← (Prod.mk.inj same).2]⟩

end Shape

namespace ShapeSpace

variable {space : ShapeSpace} {registry : RegistryId} {base : Shape} {name : String}

/-- **Names are boxed in either order.** -/
theorem boxing_comm (name other : String) (signature : List (String × Kind)) :
    boxing name (boxing other signature) = boxing other (boxing name signature) := by
  simp only [boxing, List.map_map]
  refine List.map_congr_left fun entry _ => ?_
  obtain ⟨key, kind⟩ := entry
  by_cases first : key = name
  · subst first
    by_cases second : key = other
    · subst second
      rfl
    · simp [second]
  · by_cases second : key = other
    · subst second
      simp [first]
    · simp [first, second]

/-- A name that is not widenable leaves the shape alone. -/
theorem widen_of_not_widenable (not : ¬ base.Widenable name) (space : ShapeSpace)
    (registry : RegistryId) : space.widen registry base name = (base, space) := by
  unfold widen
  split
  · next location found =>
    rw [if_neg fun primitive => not ⟨location, found, primitive⟩]
  · rfl

/-- **A widening that does something** starts from the empty shape of the registry that was asked,
and boxes the name. -/
theorem Sound.widen_of_widenable (sound : space.Sound) (hr : registry.index < space.registries.size)
    (widenable : base.Widenable name) :
    (space.widen registry base name).1.signature = boxing name base.signature ∧
      (space.widen registry base name).1.origin = space.root registry := by
  obtain ⟨location, found, primitive⟩ := widenable
  obtain ⟨published, serial, root⟩ := sound.root registry hr
  refine ⟨signature_widen sound hr found primitive, ?_⟩
  simp only [ShapeSpace.widen, found, primitive, if_true]
  rw [(sound.evolves_layOut hr published _).2, root, Shape.origin_empty]

end ShapeSpace

end InlineCache
