import InlineCache.Proofs.Guard.Verdict
import InlineCache.Proofs.Session.Defects

/-!
# Check and fetch agree

A guard is used in two ways: a check says whether it passes, and a guarded fetch gives the value at
once. The fetch does not rely on the check alone. It asks once more for a part of what was checked,
the layout of the receiver or the token of the defining class, now also whether the class holds the
token at all, and it may find no such slot. None of this makes a difference: as long as a captured
token is valid the class holds it still, with the layout that it had, and a store has a value in
every slot of its layout. So a guard that passes always has a value to give, the one in the slot
that the name has in the object that defines it.

## Main definitions

* `Guard.source`: the object from whose slot a guard fetches
* `Guard.Confirmed`: what a fetch asks for once more
* `Guard.Agrees`: check and fetch agree on a receiver

## Main results

* `Guard.exists_lookupOwn_of_resolve`: the slot of a resolution is the name's slot in the source
* `Guard.Recalls.agrees`: the guard of a resolution agrees with itself in any later world
* `probe_agrees_with_check`: so it does after any history
-/

namespace InlineCache

namespace Probe

theorem outcome_eq_pass_iff {probe : Probe} :
    probe.outcome = .pass ↔ ∃ value, probe = hit value := by
  cases probe <;> simp [outcome]

theorem outcome_eq_miss_iff {probe : Probe} : probe.outcome = .miss ↔ probe = miss := by
  cases probe <;> simp [outcome]

theorem outcome_eq_stale_iff {probe : Probe} : probe.outcome = .stale ↔ probe = stale := by
  cases probe <;> simp [outcome]

end Probe

namespace Guard

/-- The object from whose slot the guard fetches if it passes for the receiver: the receiver itself,
or the last of the classes that the guard names. -/
def source (receiver : ObjectId) : Guard → Option ObjectId
  | layout _ => some receiver
  | cls _ definer => some (.cls definer.cls)
  | chain _ hops _ => hops.getLast?.map fun definer => .cls definer.cls

/-- What a fetch asks for once more: the receiver has the captured layout, or the defining class
holds its captured token, a valid one. -/
def Confirmed (world : World) (receiver : ObjectId) : Guard → Prop
  | layout shape => (world.layout receiver).same shape = true
  | cls _ definer => world.currentAssumption definer.cls = definer.assumption ∧
      world.holds definer.assumption = true
  | chain _ hops _ => ∀ definer ∈ hops.getLast?,
      world.currentAssumption definer.cls = definer.assumption ∧
        world.holds definer.assumption = true

/-- Check and fetch of the guard agree on the receiver. -/
structure Agrees (world : World) (receiver : ObjectId) (name : String) (location : Location)
    (guard : Guard) : Prop where
  hit : (∃ value, guard.probe world receiver location = .ok (.hit value)) ↔
    guard.check world receiver = .ok .pass
  miss : guard.probe world receiver location = .ok .miss ↔
    guard.check world receiver = .ok .miss
  stale : guard.probe world receiver location = .ok .stale ↔
    guard.check world receiver = .ok .stale
  /-- What the fetch asks for once more is so. -/
  confirmed : guard.check world receiver = .ok .pass → guard.Confirmed world receiver
  /-- A fetch gives what the slot of the name holds, read without any test. -/
  fetched : guard.check world receiver = .ok .pass →
    ∃ source value, guard.source receiver = some source ∧
      world.lookupOwn source name = some (location, value) ∧
      guard.probe world receiver location = .ok (.hit value)

section Source

variable {world later : World} {limit : Nat} {receiver other : ObjectId} {name : String}
  {resolution : Resolution} {guard : Guard}

/-- The guard of a search fetches from the last of the classes visited. -/
theorem source_of_inherited {check : ReceiverCheck} {hops : List Hop} {location : Location}
    {value : Value}
    (guarded : ofResolution ⟨hops.length, location, value, .inherited check hops⟩ = .ok guard) :
    guard.source receiver = hops.getLast?.map fun definer => .cls definer.cls := by
  rcases hops with _ | ⟨hop, _ | ⟨next, rest⟩⟩ <;> cases guarded <;> rfl

/-- **The slot of a resolution** is the one that the name has in the source of its guard. -/
theorem exists_lookupOwn_of_resolve (resolved : world.resolve limit receiver name = .ok resolution)
    (guarded : ofResolution resolution = .ok guard) :
    ∃ source, guard.source receiver = some source ∧
      world.lookupOwn source name = some (resolution.location, resolution.value) := by
  rcases World.resolve_cases resolved with
    ⟨location, value, own, rfl⟩ | ⟨check, first, found, -, -, walked, rfl⟩
  · cases guarded
    exact ⟨receiver, rfl, own⟩
  · obtain ⟨definer, last, own⟩ := World.walk_definer walked
    refine ⟨.cls definer.cls, ?_, own⟩
    rw [source_of_inherited guarded, last]
    rfl

/-- The classes that the guard of a present resolution names hold the tokens captured of them. -/
theorem current_of_resolve (resolved : world.resolve limit receiver name = .ok resolution)
    (guarded : ofResolution resolution = .ok guard) :
    ∀ hop ∈ guard.hops, world.currentAssumption hop.cls = hop.assumption := by
  rcases World.resolve_cases resolved with
    ⟨location, value, -, rfl⟩ | ⟨check, first, found, -, -, walked, rfl⟩
  · cases guarded
    exact nofun
  · obtain ⟨visited, -, -⟩ := World.walk_hops walked
    rw [hops_of_inherited guarded, visited]
    intro hop mem
    obtain ⟨c, -, rfl⟩ := List.mem_map.1 mem
    rfl

/-- What the fetch asks for is a part of what was checked, and that the last class holds its
token. -/
theorem confirmed_of_verdict (pass : guard.verdict world receiver = .pass)
    (current : ∀ hop ∈ guard.hops, world.currentAssumption hop.cls = hop.assumption) :
    guard.Confirmed world receiver := by
  obtain ⟨known, valid⟩ := verdict_eq_pass_iff.1 pass
  rcases guard with shape | ⟨captured, definer⟩ | ⟨captured, hops, depth⟩
  · exact beq_iff_eq.2 (ReceiverKey.matches_layout.1 known)
  · exact ⟨current definer (List.mem_singleton_self _),
      valid _ (List.mem_append_right _ (List.mem_singleton_self _))⟩
  · intro definer last
    have visited := List.mem_of_getLast? last
    exact ⟨current definer visited,
      valid _ (List.mem_append_right _ (List.mem_map_of_mem visited))⟩

/-- **The guard of a resolution agrees with itself** in any later world, on any receiver that is
there. -/
theorem agrees_of_resolve (sound : world.Sound) (sound' : later.Sound) (ext : world.Extends later)
    (hr : world.HasObject receiver) (ho : later.HasObject other)
    (resolved : world.resolve limit receiver name = .ok resolution)
    (guarded : ofResolution resolution = .ok guard) :
    guard.Agrees later other name resolution.location := by
  have recalls := recalls_of_resolve sound hr resolved guarded
  have checked := recalls.check_eq_verdict ext hr other
  obtain ⟨probe, probed, outcome⟩ := recalls.exists_probe sound sound' ext hr ho
  -- both answers are the verdict, so they are the same answer
  have same (wanted : GuardOutcome) :
      guard.check later other = .ok wanted ↔ probe.outcome = wanted := by
    rw [checked, outcome, Except.ok.injEq]
  have again {value : Value} (hit : probe = .hit value) :
      later.resolve limit other name = .ok { resolution with value } := by
    rw [hit] at probed
    exact resolve_eq_of_probe_hit sound sound' ext hr ho resolved guarded probed
  refine ⟨?_, ?_, ?_, ?_, ?_⟩
  · rw [same, Probe.outcome_eq_pass_iff, probed]
    simp only [Except.ok.injEq]
  · rw [same, Probe.outcome_eq_miss_iff, probed, Except.ok.injEq]
  · rw [same, Probe.outcome_eq_stale_iff, probed, Except.ok.injEq]
  · intro pass
    obtain ⟨value, hit⟩ := Probe.outcome_eq_pass_iff.1 ((same _).1 pass)
    have verdict : guard.verdict later other = .pass := Except.ok.inj (checked.symm.trans pass)
    exact confirmed_of_verdict verdict (current_of_resolve (again hit) guarded)
  · intro pass
    obtain ⟨value, rfl⟩ := Probe.outcome_eq_pass_iff.1 ((same _).1 pass)
    obtain ⟨source, from_source, own⟩ := exists_lookupOwn_of_resolve (again rfl) guarded
    exact ⟨source, value, from_source, own, probed⟩

end Source

end Guard

namespace Session

variable {session : Session}

/-- **Check and fetch agree.** The guard of a resolution, used with the slot of the resolution,
finds the same by a check and by a guarded fetch, whatever has happened since and whoever the
receiver is. If the check passes, the fetch has a value, the one that the name has in the object
from which the guard fetches; what the fetch asks for once more is never refused. -/
theorem probe_agrees_with_check (reached : session.Reachable) :
    ∀ limit receiver name resolution, session.world.HasObject receiver →
      session.world.resolve limit receiver name = .ok resolution →
      ∃ guard, Guard.ofResolution resolution = .ok guard ∧
        ∀ history, session.AdmitsAll history →
          ∀ other, (session.run history).world.HasObject other →
            guard.Agrees (session.run history).world other name resolution.location := by
  intro limit receiver name resolution hr resolved
  obtain ⟨guard, guarded, -⟩ := Guard.exists_ofResolution resolved
  refine ⟨guard, guarded, ?_⟩
  intro history admitted other ho
  have sound' := (reached.run admitted).sound
  have ext := reached.extends_run admitted
  exact Guard.agrees_of_resolve reached.sound sound' ext hr ho resolved guarded

/-- The attribute of a descent as the instance finds it, three classes away. -/
def descended : Resolution where
  depth := 3
  location := ⟨.int, 0⟩
  value := .int 1
  placement := .inherited ⟨⟨2⟩, .layout (.empty 0)⟩ [⟨⟨2⟩, ⟨2⟩⟩, ⟨⟨1⟩, ⟨1⟩⟩, ⟨⟨0⟩, ⟨3⟩⟩]

/-- The attribute gets another value, and the class before the last an instance of its own. -/
def revalued : List Action :=
  [.setAttribute ⟨0⟩ (.object (.cls ⟨0⟩)) "x" (.int 2), .newInstance ⟨0⟩ ⟨1⟩]

/-- That class gets another layout as well. -/
def relaid : List Action :=
  revalued ++ [.setAttribute ⟨0⟩ (.object (.cls ⟨1⟩)) "y" (.bool true)]

/-- The guard gives the new value to the instance, misses the other one, and is stale once a class
on the way has another layout: each time the fetch says so because the check does. -/
theorem probe_agrees_with_check_of_descent :
    let session := empty.run descent
    let later := session.run revalued
    let last := session.run relaid
    ∃ guard, Guard.ofResolution descended = .ok guard ∧
      guard.source (.inst ⟨0⟩) = some (.cls ⟨0⟩) ∧
      guard.probe later.world (.inst ⟨0⟩) ⟨.int, 0⟩ = .ok (.hit (.int 2)) ∧
      guard.probe later.world (.inst ⟨1⟩) ⟨.int, 0⟩ = .ok .miss ∧
      guard.probe last.world (.inst ⟨0⟩) ⟨.int, 0⟩ = .ok .stale := by
  intro session later last
  have reached : session.Reachable := ⟨descent, by decide, rfl⟩
  have resolved : session.world.resolve 8 (.inst ⟨0⟩) "x" = .ok descended := by rfl
  obtain ⟨guard, guarded, agrees⟩ :=
    probe_agrees_with_check reached 8 (.inst ⟨0⟩) "x" descended (by decide) resolved
  have known : guard = .chain ⟨⟨2⟩, .layout (.empty 0)⟩
      [⟨⟨2⟩, ⟨2⟩⟩, ⟨⟨1⟩, ⟨1⟩⟩, ⟨⟨0⟩, ⟨3⟩⟩] 3 := Except.ok.inj (guarded.symm.trans rfl)
  have first := agrees revalued (by decide) (.inst ⟨0⟩) (by decide)
  have second := agrees revalued (by decide) (.inst ⟨1⟩) (by decide)
  have third := agrees relaid (by decide) (.inst ⟨0⟩) (by decide)
  subst known
  refine ⟨_, guarded, rfl, ?_, second.miss.2 (by decide), third.stale.2 (by decide)⟩
  obtain ⟨source, value, from_source, own, probed⟩ := first.fetched (by decide)
  cases from_source
  have now : later.world.lookupOwn (.cls ⟨0⟩) "x" = some (⟨.int, 0⟩, .int 2) := by rfl
  cases now.symm.trans own
  exact probed

end Session

end InlineCache
