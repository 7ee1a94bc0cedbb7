import InlineCache.Proofs.Resolution.Persistence
import InlineCache.Proofs.Session.Forest

/-!
# The nearest definition wins

The classes from which an object inherits are the chain of superclasses that starts at the class of
an instance, or at the superclass of a class; a module inherits from none. An attribute that the
object has itself hides all of theirs. Otherwise the first class of the chain that defines the name
answers, and the answer names the classes up to it. The limit is the number of classes that may be
asked: a chain that is no longer has been asked in full, and if it does not define the name, nobody
does; of a longer chain this cannot be said, and the search says so.

## Main definitions

* `World.ancestry`: the classes from which an object inherits, nearest first
* `World.Nearest`: the first class of a list that defines a name

## Main results

* `walk_of_nearest`, `walk_of_absent`: what a search along classes finds, or why it finds nothing
* `resolve_of_nearest`, `resolve_of_nowhere`: the same of a resolution
* `nearest_definition_wins`: how every name resolves on every object
-/

namespace InlineCache

namespace World

variable {world : World} {name : String} {classes : List ClassId} {c : ClassId} {i limit : Nat}
  {receiver : ObjectId} {location : Location} {value : Value}

/-- The classes from which an object inherits, nearest first. -/
def ancestry (world : World) (receiver : ObjectId) : List ClassId :=
  world.lineage ((world.entry receiver).bind Prod.snd)

/-- The class at the index has the attribute, and no class before it does. -/
structure Nearest (world : World) (name : String) (classes : List ClassId) (i : Nat) (c : ClassId)
    (location : Location) (value : Value) : Prop where
  listed : classes[i]? = some c
  defines : world.lookupOwn (.cls c) name = some (location, value)
  first : ∀ d ∈ classes.take i, world.lookupOwn (.cls d) name = none

/-! ## Searches -/

/-- A search that has to ask the first class goes on behind it, if that class lacks the name. -/
theorem walk_succ_of_absent (absent : world.lookupOwn (.cls c) name = none) (budget : Nat) :
    world.walk name (budget + 1) (c :: classes) =
      (world.walk name budget classes).map fun found =>
        { found with hops := world.hop c :: found.hops } := by
  rw [walk, absent]
  cases world.walk name budget classes with
  | ok found => rfl
  | error absence => rfl

/-- **A search finds the nearest definition** if it may ask so many classes. -/
theorem walk_of_nearest (nearest : world.Nearest name classes i c location value)
    (within : i < limit) : world.walk name limit classes =
      .ok ⟨(classes.take (i + 1)).map world.hop, location, value⟩ := by
  -- Induction on the list; each class before the nearest one costs one of the limit.
  induction classes generalizing i limit with
  | nil => cases nearest.listed
  | cons d rest ih =>
    obtain ⟨budget, rfl⟩ : ∃ budget, limit = budget + 1 := ⟨limit - 1, by omega⟩
    obtain ⟨listed, defines, first⟩ := nearest
    cases i with
    | zero =>
      cases listed
      rw [walk, defines]
      rfl
    | succ i =>
      have absent : world.lookupOwn (.cls d) name = none := first d (List.mem_cons_self ..)
      have nearest : world.Nearest name rest i c location value :=
        ⟨listed, defines, fun e mem => first e (List.mem_cons_of_mem _ mem)⟩
      rw [walk_succ_of_absent absent, ih nearest (Nat.lt_of_succ_lt_succ within)]
      rfl

/-- **A search that finds nothing** has asked all classes, or has come to the limit before. -/
theorem walk_of_absent (absent : ∀ d ∈ classes.take limit, world.lookupOwn (.cls d) name = none) :
    world.walk name limit classes =
      .error (if limit < classes.length then .tooDeep else .exhausted) := by
  induction classes generalizing limit with
  | nil => rw [walk, List.length_nil, if_neg (Nat.not_lt_zero _)]
  | cons d rest ih =>
    cases limit with
    | zero => rw [walk, List.length_cons, if_pos (Nat.zero_lt_succ _)]
    | succ budget =>
      have rest_absent : ∀ e ∈ rest.take budget, world.lookupOwn (.cls e) name = none := by
        intro e mem
        exact absent e (List.mem_cons_of_mem _ mem)
      rw [walk_succ_of_absent (absent d (List.mem_cons_self ..)), ih rest_absent]
      simp only [List.length_cons, Nat.add_lt_add_iff_right]
      rfl

/-! ## Resolutions -/

theorem ancestry_eq {check : ReceiverCheck} {first : Option ClassId}
    (enters : world.entry receiver = some (check, first)) :
    world.ancestry receiver = world.lineage first := by
  rw [ancestry, enters]
  rfl

/-- Where there is no search, there is no class to ask. -/
theorem ancestry_of_no_entry (enters : world.entry receiver = none) :
    world.ancestry receiver = [] := by
  rw [ancestry, enters]
  exact lineage_none world

/-- **An inherited name** resolves to the nearest definition. -/
theorem resolve_of_nearest (absent : world.lookupOwn receiver name = none)
    (nearest : world.Nearest name (world.ancestry receiver) i c location value)
    (within : i < limit) :
    ∃ check first, world.entry receiver = some (check, first) ∧
      world.resolve limit receiver name = .ok ⟨i + 1, location, value,
        .inherited check (((world.ancestry receiver).take (i + 1)).map world.hop)⟩ := by
  obtain ⟨long, -⟩ := List.getElem?_eq_some_iff.1 nearest.listed
  cases enters : world.entry receiver with
  | none =>
    rw [ancestry_of_no_entry enters] at long
    cases long
  | some start =>
    obtain ⟨check, first⟩ := start
    refine ⟨check, first, rfl, ?_⟩
    have walked := walk_of_nearest nearest within
    rw [resolve_of_absent absent enters, resolveInherited, ← ancestry_eq enters, walked]
    have depth : (((world.ancestry receiver).take (i + 1)).map world.hop).length = i + 1 := by
      rw [List.length_map, List.length_take]
      omega
    simp only [depth]

/-- The last of the hops is the class that defines the name. -/
theorem definingClass_of_nearest (nearest : world.Nearest name classes i c location value)
    (check : ReceiverCheck) : Resolution.definingClass ⟨i + 1, location, value,
      .inherited check ((classes.take (i + 1)).map world.hop)⟩ = some c := by
  have last : (classes.take (i + 1)).getLast? = some c := by
    rw [List.take_add_one, nearest.listed, Option.toList_some, List.getLast?_concat]
  show ((classes.take (i + 1)).map world.hop).getLast?.map Hop.cls = some c
  rw [List.getLast?_map, last]
  rfl

/-- **A name that is nowhere** within the limit does not resolve. -/
theorem resolve_of_nowhere (absent : world.lookupOwn receiver name = none)
    (nowhere : ∀ d ∈ (world.ancestry receiver).take limit,
      world.lookupOwn (.cls d) name = none) :
    world.resolve limit receiver name =
      .error (if limit < (world.ancestry receiver).length then
        .invalidState (.hierarchyTooDeep limit name)
      else .noAttribute name (world.describe receiver)) := by
  cases enters : world.entry receiver with
  | none =>
    rw [ancestry_of_no_entry enters, List.length_nil, if_neg (Nat.not_lt_zero _)]
    rcases receiver with i | c | m
    · cases enters
    · cases enters
    · rw [resolve, absent]
  | some start =>
    obtain ⟨check, first⟩ := start
    rw [resolve_of_absent absent enters, resolveInherited, ← ancestry_eq enters,
      walk_of_absent nowhere]
    by_cases deep : limit < (world.ancestry receiver).length
    · simp only [deep, if_true]
    · simp only [deep, if_false]

end World

namespace Session

variable {session : Session} {receiver : ObjectId}

/-- **The nearest definition wins**, within an exact limit. The classes from which an object
inherits are a complete chain of superclasses. A name that the object has itself resolves to its own
attribute. Any other name resolves to the nearest class that defines it, with the slot there, all
classes up to it with their present tokens, and what the receiver has to keep. If none of the
classes within the limit defines it, the chain is too deep if it is longer than the limit, and else
the attribute is missing. -/
theorem nearest_definition_wins (reached : session.Reachable)
    (there : session.world.HasObject receiver) (name : String) (limit : Nat) :
    let world := session.world
    let classes := world.ancestry receiver
    let resolved := world.resolve limit receiver name
    world.IsLineage ((world.entry receiver).bind Prod.snd) classes ∧
      (∀ location value, world.lookupOwn receiver name = some (location, value) →
        resolved = .ok ⟨0, location, value, .own (world.layout receiver)⟩) ∧
      (world.lookupOwn receiver name = none →
        (∀ i < limit, ∀ c location value, world.Nearest name classes i c location value →
          ∃ check first, world.entry receiver = some (check, first) ∧
            let found : Resolution := ⟨i + 1, location, value,
              .inherited check ((classes.take (i + 1)).map world.hop)⟩
            resolved = .ok found ∧ found.definingClass = some c) ∧
        ((∀ c ∈ classes.take limit, world.lookupOwn (.cls c) name = none) →
          resolved = .error (if limit < classes.length then
            .invalidState (.hierarchyTooDeep limit name)
          else .noAttribute name (world.describe receiver)))) := by
  intro world classes resolved
  refine ⟨?_, ?_, ?_⟩
  · apply reached.acyclic.isLineage_lineage reached.sound
    intro c mem
    obtain ⟨start, enters, starts⟩ := Option.bind_eq_some_iff.1 mem
    exact World.hasClass_of_entry reached.sound there enters c starts
  · intro location value own
    exact World.resolve_own own limit
  · intro absent
    constructor
    · intro i within c location value nearest
      obtain ⟨check, first, enters, found⟩ := World.resolve_of_nearest absent nearest within
      exact ⟨check, first, enters, found, World.definingClass_of_nearest nearest check⟩
    · intro nowhere
      exact World.resolve_of_nowhere absent nowhere

/-- An instance of the last of three classes, the first of which defines an attribute. -/
def descent : List Action :=
  [.newRegistry, .newClass ⟨0⟩ "A" none, .newClass ⟨0⟩ "B" (some ⟨0⟩),
    .newClass ⟨0⟩ "C" (some ⟨1⟩), .setAttribute ⟨0⟩ (.object (.cls ⟨0⟩)) "x" (.int 1),
    .newInstance ⟨0⟩ ⟨2⟩]

/-- With a limit of three classes the attribute is found on the last of them, and another name is
found to be missing. With a limit of two it cannot be told. -/
theorem nearest_definition_wins_of_descent :
    let world := (empty.run descent).world
    let receiver : ObjectId := .inst ⟨0⟩
    (world.ancestry receiver = [⟨2⟩, ⟨1⟩, ⟨0⟩] ∧
        world.Nearest "x" [⟨2⟩, ⟨1⟩, ⟨0⟩] 2 ⟨0⟩ ⟨.int, 0⟩ (.int 1)) ∧
      (∃ check, world.resolve 3 receiver "x" = .ok ⟨3, ⟨.int, 0⟩, .int 1,
        .inherited check [world.hop ⟨2⟩, world.hop ⟨1⟩, world.hop ⟨0⟩]⟩) ∧
      world.resolve 3 receiver "y" = .error (.noAttribute "y" "C") ∧
      world.resolve 2 receiver "x" = .error (.invalidState (.hierarchyTooDeep 2 "x")) := by
  intro world receiver
  have reached : (empty.run descent).Reachable := ⟨descent, by decide, rfl⟩
  have there : world.HasObject receiver := by decide
  have chain : world.ancestry receiver = [⟨2⟩, ⟨1⟩, ⟨0⟩] := by decide
  have nearest : world.Nearest "x" [⟨2⟩, ⟨1⟩, ⟨0⟩] 2 ⟨0⟩ ⟨.int, 0⟩ (.int 1) :=
    ⟨rfl, by decide, by decide⟩
  obtain ⟨-, -, inherited⟩ := nearest_definition_wins reached there "x" 3
  obtain ⟨-, -, missing⟩ := nearest_definition_wins reached there "y" 3
  obtain ⟨-, -, deep⟩ := nearest_definition_wins reached there "x" 2
  refine ⟨⟨chain, nearest⟩, ?_, ?_, ?_⟩
  · obtain ⟨check, first, -, found, -⟩ :=
      (inherited (by decide)).1 2 (by decide) ⟨0⟩ _ _ (chain ▸ nearest)
    exact ⟨check, found⟩
  · exact (missing (by decide)).2 (by decide)
  · exact (deep (by decide)).2 (by decide)

end Session

end InlineCache
