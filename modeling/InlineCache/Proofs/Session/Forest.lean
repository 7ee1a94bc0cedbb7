import InlineCache.Proofs.Session.Growth
import InlineCache.Proofs.World.Lineage

/-!
# The class hierarchy stays a forest

Whatever a client does, no class becomes its own ancestor. A class is created below a class that is
there, and a change of superclass is tested before it is carried out; nothing else touches a link.
The test itself is a loop along the links, which ends because no class is its own ancestor so far.

## Main definitions

* `World.Forest`: every lineage ends, and the test and the search see all of it
* `Session.Refuses`: a change of superclass is refused, and leaves no trace

## Main results

* `acyclic_after`: one admitted action
* `Reachable.acyclic`: no class of a reachable session inherits from itself through its superclass
* `hierarchy_is_forest`: the hierarchy is a forest, and exactly the changes that would make a cycle
  are refused
-/

namespace InlineCache

open Relation (ReflTransGen TransGen)

namespace World

variable {world : World} {a b : ClassId} {registry : RegistryId} {holder : Holder} {name : String}
  {value : Value}

/-- The classes form a forest: whoever follows the links comes to an end, a lineage is complete, the
test decides the reflexive and transitive closure of the links, which is a partial order, and a
search along a lineage needs no limit. -/
structure Forest (world : World) : Prop where
  ends : WellFounded fun b a => world.Link a b
  lineage : ∀ a, world.HasClass a → world.IsLineage (some a) (world.lineage (some a))
  subclass_iff : ∀ a b, world.HasClass a →
    (world.isSubclassOf a b = true ↔ ReflTransGen world.Link a b)
  refl : ∀ a, world.isSubclassOf a a = true
  antisymm : ∀ a b, world.HasClass a → world.HasClass b → world.isSubclassOf a b = true →
    world.isSubclassOf b a = true → a = b
  trans : ∀ a b c, world.HasClass a → world.HasClass b → world.isSubclassOf a b = true →
    world.isSubclassOf b c = true → world.isSubclassOf a c = true
  unlimited : ∀ receiver name limit, world.HasObject receiver → world.classes.size ≤ limit →
    world.resolve limit receiver name = world.resolve world.classes.size receiver name ∧
      ∀ n m, world.resolve limit receiver name ≠ .error (.invalidState (.hierarchyTooDeep n m))

theorem Acyclic.forest (acyclic : world.Acyclic) (sound : world.Sound) : world.Forest where
  ends := acyclic.wellFounded sound
  lineage a ha := by
    apply acyclic.isLineage_lineage sound
    rintro b ⟨⟩
    exact ha
  subclass_iff a b ha := (acyclic.isSubclassOf_iff sound ha).trans inherits_iff_reflTransGen
  refl a := by rw [isSubclassOf, beq_self_eq_true, Bool.true_or]
  antisymm a b _ _ up down :=
    acyclic.antisymm (inherits_of_isSubclassOf up) (inherits_of_isSubclassOf down)
  trans a b c ha _ first second :=
    (acyclic.isSubclassOf_iff sound ha).2
      ((inherits_of_isSubclassOf first).trans (inherits_of_isSubclassOf second))
  unlimited _ name _ hr enough := acyclic.resolve_of_size_le sound hr enough name

/-- A write changes no link. -/
theorem superclass_setAttribute (hh : world.HasHolder holder) (c : ClassId) :
    (world.setAttribute registry holder name value).world.superclass c = world.superclass c := by
  have stored : (world.stored registry holder name value).superclass c = world.superclass c :=
    superclass_putStore _ holder _ c
  rcases world_setAttribute_cases world registry holder name value with e | ⟨d, rfl, e⟩
  · rw [e, stored]
  · rw [e, superclass_renewAssumption ((hasHolder_stored _).2 hh), stored]

end World

namespace Session

variable {session : Session} {a b : ClassId}

/-- **An admitted action** makes no cycle. -/
theorem acyclic_after (acyclic : session.world.Acyclic) (sound : session.world.Sound)
    {action : Action} (admitted : session.Admits action) :
    (session.after action).world.Acyclic := by
  cases action with
  | newClass registry name superclass => exact acyclic.newClass sound registry name admitted.2
  | setSuperclass c superclass =>
    rw [after, perform]
    split
    · next step done => exact acyclic.setSuperclass sound admitted.1 admitted.2 done
    · exact acyclic
  | setAttribute registry holder name value =>
    exact acyclic.congr (World.superclass_setAttribute admitted.2.1)
  | siteAt table place name => rwa [world_after_siteAt]
  | load table place name value => rwa [world_after_load]
  -- What is left touches no class.
  | newRegistry | newInstance | newModule | newStore | newStoreOn | copyStore | mint | invalidate
  | publishRoot | withAttribute | widen | newSite | read | readInt | readFloat | readBool | newTable
  | clearTable => exact acyclic.congr fun _ => rfl

theorem Reachable.acyclic (reached : session.Reachable) : session.world.Acyclic :=
  Reachable.induction (motive := fun s => s.world.Acyclic) World.acyclic_empty
    (fun _ _ reached acyclic admitted => acyclic_after acyclic reached.sound admitted) reached

/-- The change of superclass is refused: the session afterwards is the one before, and nothing is
reported. -/
def Refuses (session : Session) (a b : ClassId) : Prop :=
  session.perform (.setSuperclass a (some b)) =
    ⟨.refused ⟨session.world.className a, session.world.className b⟩, [], session⟩

theorem perform_setSuperclass_of_ok {superclass : Option ClassId} {step : Step Unit}
    (done : session.world.setSuperclass a superclass = .ok step) :
    session.perform (.setSuperclass a superclass) =
      ⟨.done, step.events.map .world, session.withWorld step.world⟩ := by
  rw [perform, done]

/-- **A change of superclass is refused or carried out**, by what the test says of the candidate. -/
theorem refuses_or_done (ha : session.world.HasClass a) (superclass : Option ClassId) :
    (∃ b, superclass = some b ∧ session.world.isSubclassOf b a = true ∧ session.Refuses a b) ∨
      (∀ b ∈ superclass, session.world.isSubclassOf b a = false) ∧
        (session.perform (.setSuperclass a superclass)).answer = .done ∧
        (session.after (.setSuperclass a superclass)).world.superclass a = superclass := by
  cases changed : session.world.setSuperclass a superclass with
  | error e =>
    obtain ⟨b, rfl, inherits⟩ := World.setSuperclass_eq_error_iff.1 ⟨e, changed⟩
    refine .inl ⟨b, rfl, inherits, ?_⟩
    simp [Refuses, perform, World.setSuperclass, inherits]
  | ok step =>
    have performed := perform_setSuperclass_of_ok changed
    refine .inr ⟨?_, by rw [performed], ?_⟩
    · rintro b ⟨⟩
      by_contra inherits
      obtain ⟨e, refused⟩ := World.setSuperclass_eq_error_iff.2
        ⟨b, rfl, by simpa using inherits⟩
      cases changed.symm.trans refused
    · rw [after, performed]
      show step.world.superclass a = superclass
      rw [World.setSuperclass_eq_ok changed]
      exact World.superclass_rewired_self ha

/-- **The hierarchy is a forest** in every reachable session. A class may have any superclass but
itself and those that inherit from it, and every class may have none. A refused change leaves the
session as it is, with all its links, shapes and tokens. -/
theorem hierarchy_is_forest (reached : session.Reachable) :
    session.world.Forest ∧
      (∀ a b, session.world.HasClass a → session.world.HasClass b →
        ((∃ e, (session.perform (.setSuperclass a (some b))).answer = .refused e) ↔
          b = a ∨ TransGen session.world.Link b a)) ∧
      (∀ a superclass, session.world.HasClass a →
        (∃ b, superclass = some b ∧ session.Refuses a b) ∨
          (session.perform (.setSuperclass a superclass)).answer = .done ∧
            (session.after (.setSuperclass a superclass)).world.superclass a = superclass) := by
  have forest := reached.acyclic.forest reached.sound
  refine ⟨forest, ?_, ?_⟩
  · intro a b ha hb
    have tested := forest.subclass_iff b a hb
    rw [Relation.reflTransGen_iff_eq_or_transGen, @eq_comm _ a b] at tested
    rw [← tested]
    rcases refuses_or_done ha (some b) with ⟨_, ⟨⟩, inherits, refused⟩ | ⟨allowed, done, -⟩
    · rw [Refuses] at refused
      simp [refused, inherits]
    · simp [done, allowed b rfl]
  · intro a superclass ha
    rcases refuses_or_done ha superclass with ⟨b, given, -, refused⟩ | ⟨-, done⟩
    · exact .inl ⟨b, given, refused⟩
    · exact .inr done

/-- A class that gets its superclass after it was created. -/
def dynasty : List Action :=
  [.newRegistry, .newClass ⟨0⟩ "A" none, .newClass ⟨0⟩ "B" (some ⟨0⟩), .newClass ⟨0⟩ "C" none,
    .setSuperclass ⟨2⟩ (some ⟨1⟩)]

/-- The first class inherits from nothing, so it may not inherit from the last one, which inherits
from it through the class between them. The last one may be cut off again. -/
theorem hierarchy_is_forest_of_dynasty :
    let session := empty.run dynasty
    session.world.lineage (some ⟨2⟩) = [⟨2⟩, ⟨1⟩, ⟨0⟩] ∧
      session.world.IsLineage (some ⟨2⟩) [⟨2⟩, ⟨1⟩, ⟨0⟩] ∧
      session.Refuses ⟨0⟩ ⟨2⟩ ∧
      (session.perform (.setSuperclass ⟨2⟩ none)).answer = .done := by
  intro session
  have reached : session.Reachable := ⟨dynasty, by decide, rfl⟩
  obtain ⟨forest, refused_iff, decided⟩ := hierarchy_is_forest reached
  have ancestors : session.world.lineage (some ⟨2⟩) = [⟨2⟩, ⟨1⟩, ⟨0⟩] := by decide
  refine ⟨ancestors, ancestors ▸ forest.lineage ⟨2⟩ (by decide), ?_, ?_⟩
  · have way : TransGen session.world.Link ⟨2⟩ ⟨0⟩ :=
      .head (show session.world.superclass ⟨2⟩ = some ⟨1⟩ by decide)
        (.single (show session.world.superclass ⟨1⟩ = some ⟨0⟩ by decide))
    obtain ⟨e, refused⟩ := (refused_iff ⟨0⟩ ⟨2⟩ (by decide) (by decide)).2 (.inr way)
    rcases decided ⟨0⟩ (some ⟨2⟩) (by decide) with ⟨_, ⟨⟩, refuses⟩ | ⟨done, -⟩
    · exact refuses
    · rw [done] at refused
      cases refused
  · rcases decided ⟨2⟩ none (by decide) with ⟨b, given, -⟩ | ⟨done, -⟩
    · cases given
    · exact done

end Session

end InlineCache
