import InlineCache.Proofs.Session.Entries

/-!
# What becomes of a guard

The guard of a resolution is never made over, while the object world goes on. Whatever happens to
the world, a check finds what the key of the receiver and the captured tokens say: the links on the
way are in place as long as the tokens are valid. A token that was invalidated stays so, and a guard
that is stale for one receiver passes for none any more. The nodes that a read drops are such.

## Main definitions

* `Guard.Decided`: key and tokens decide what a check finds
* `Session.Spent`: the guard will pass for no receiver

## Main results

* `CachedNode.Backed.decided`: key and tokens decide of every node of a reachable session
* `Reachable.spent`: a guard with an invalid token is spent
* `outcomes_exact`: a guard is decided at any later moment, and spent once it is stale
-/

namespace InlineCache

/-- A check of the guard finds what the key of the receiver and the captured tokens say. -/
structure Guard.Decided (world : World) (guard : Guard) : Prop where
  miss : ∀ receiver, guard.check world receiver = .ok .miss ↔ ¬ guard.key.Matches world receiver
  stale : ∀ receiver, guard.check world receiver = .ok .stale ↔
    guard.key.Matches world receiver ∧ ∃ a ∈ guard.tokens, world.holds a = false
  pass : ∀ receiver, guard.check world receiver = .ok .pass ↔
    guard.key.Matches world receiver ∧ ∀ a ∈ guard.tokens, world.holds a = true
  /-- The links on the way are in place while the tokens are valid. -/
  links : ∀ captured hops depth, guard = .chain captured hops depth →
    (∀ a ∈ guard.tokens, world.holds a = true) →
    world.startsAt captured.owner hops = true ∧
      hops.IsChain fun hop next => world.hasSuperclass hop.cls next.cls = true

/-- The guard passes for no receiver, now or after whatever happens next. -/
def Session.Spent (session : Session) (guard : Guard) : Prop :=
  ∀ history, session.AdmitsAll history → ∀ receiver,
    guard.check (session.run history).world receiver ≠ .ok .pass

section Node

variable {world later : World} {limit : Nat} {name : String} {node : CachedNode}
  {receiver : ObjectId} {location : Location} {guard : Guard}

theorem CachedNode.backed_of_resolve (sound : world.Sound) (hr : world.HasObject receiver)
    {resolution : Resolution} (resolved : world.resolve limit receiver name = .ok resolution)
    (guarded : Guard.ofResolution resolution = .ok guard) :
    CachedNode.Backed world limit name ⟨guard, resolution.location⟩ :=
  ⟨world, receiver, resolution, sound, .refl _, hr, resolved, guarded, rfl⟩

/-- The links of a long way are in place while the tokens are valid. -/
theorem Guard.Recalls.linked (recalls : guard.Recalls world receiver name location)
    (ext : world.Extends later) (hr : world.HasObject receiver) {captured : ReceiverCheck}
    {hops : List Hop} {depth : Nat} (long : guard = .chain captured hops depth)
    (valid : ∀ a ∈ guard.tokens, later.holds a = true) :
    later.startsAt captured.owner hops = true ∧
      hops.IsChain fun hop next => later.hasSuperclass hop.cls next.cls = true := by
  cases recalls with
  | own owned => cases long
  | near enters way defined => cases long
  | far enters way several last defined =>
    cases long
    rw [tokens, List.forall_mem_append, List.forall_mem_map] at valid
    constructor
    · exact way.startsAt ext hr enters valid.1
    · refine (way.linked_of_valid ext valid.2).imp ?_
      intro hop next link
      rw [World.hasSuperclass, beq_iff_eq]
      exact link

/-- **Key and tokens decide** what a check of a node finds. -/
theorem CachedNode.Backed.decided (backed : node.Backed world limit name) :
    node.guard.Decided world where
  miss _ := backed.check_iff.trans Guard.verdict_eq_miss_iff
  stale _ := backed.check_iff.trans Guard.verdict_eq_stale_iff
  pass _ := backed.check_iff.trans Guard.verdict_eq_pass_iff
  links captured hops depth long valid := by
    obtain ⟨earlier, first, resolution, sound, ext, created, resolved, guarded, -⟩ := backed
    have recalls := Guard.recalls_of_resolve sound created resolved guarded
    exact recalls.linked ext created long valid

theorem CachedNode.Backed.minted (backed : node.Backed world limit name) :
    ∀ a ∈ node.guard.tokens, world.HasAssumption a := by
  obtain ⟨earlier, first, resolution, sound, ext, created, resolved, guarded, -⟩ := backed
  have recalls := Guard.recalls_of_resolve sound created resolved guarded
  intro a captured
  exact ext.minted a (recalls.minted sound created a captured)

end Node

namespace Session

variable {session : Session} {limit : Nat} {name : String} {node : CachedNode}

/-- **A guard with an invalid token is spent**: the token stays invalid. -/
theorem Reachable.spent (reached : session.Reachable)
    (backed : node.Backed session.world limit name) {a : Assumption}
    (captured : a ∈ node.guard.tokens) (retired : session.world.holds a = false) :
    session.Spent node.guard := by
  intro history admitted receiver pass
  have ext := reached.extends_run admitted
  have valid := (((backed.mono ext).decided.pass receiver).1 pass).2 a captured
  rw [World.not_holds_of_extends (backed.minted a captured) retired ext] at valid
  cases valid

theorem Reachable.spent_of_stale (reached : session.Reachable)
    (backed : node.Backed session.world limit name) {receiver : ObjectId}
    (stale : node.guard.check session.world receiver = .ok .stale) : session.Spent node.guard := by
  obtain ⟨-, a, captured, retired⟩ := (backed.decided.stale receiver).1 stale
  exact reached.spent backed captured retired

/-- **What the outcomes of a check mean.** The guard of a resolution knows the receiver of the
resolution by its key. At any later moment, and for any receiver, a check finds what key and tokens
say, and once it finds the guard stale the guard is spent. So every node that a read drops was
spent. -/
theorem outcomes_exact (reached : session.Reachable) :
    (∀ limit receiver name resolution, session.world.HasObject receiver →
      session.world.resolve limit receiver name = .ok resolution →
      ∃ guard, Guard.ofResolution resolution = .ok guard ∧
        guard.key.Matches session.world receiver ∧
        (guard.key.isOwn = true ↔ resolution.depth = 0) ∧
        ∀ history, session.AdmitsAll history →
          let later := session.run history
          guard.Decided later.world ∧
            ∀ other, guard.check later.world other = .ok .stale → later.Spent guard) ∧
      ∀ id receiver, session.world.HasObject receiver → ∀ node ∈ (session.site id).nodes,
        node ∉ (Site.walk session.world receiver 0 (session.site id).nodes).kept →
        session.Spent node.guard := by
  constructor
  · intro limit receiver name resolution hr resolved
    obtain ⟨guard, guarded, -⟩ := Guard.exists_ofResolution resolved
    have recalls := Guard.recalls_of_resolve reached.sound hr resolved guarded
    have backed := CachedNode.backed_of_resolve reached.sound hr resolved guarded
    refine ⟨guard, guarded, recalls.key_matches, ?_, ?_⟩
    · rw [Guard.isOwn_key_iff, Guard.kind_ofResolution guarded]
      split
      · simp [*]
      · split <;> simp [*]
    · intro history admitted later
      have backed := backed.mono (reached.extends_run admitted)
      refine ⟨backed.decided, ?_⟩
      intro other stale
      exact (reached.run admitted).spent_of_stale backed stale
  · intro id receiver hr node mem dropped
    have backed := reached.backed id node mem
    have probed := (Site.mem_walk_kept_or_stale 0 mem).resolve_left dropped
    have verdict := backed.outcome_of_probed reached.sound hr probed
    exact reached.spent_of_stale backed (backed.check_iff.2 verdict.symm)

/-- A class that inherits an attribute from its superclass's superclass. -/
def family : List Action :=
  [.newRegistry, .newClass ⟨0⟩ "Base" none, .newClass ⟨0⟩ "Middle" (some ⟨0⟩),
    .newClass ⟨0⟩ "Leaf" (some ⟨1⟩), .setAttribute ⟨0⟩ (.object (.cls ⟨0⟩)) "x" (.int 1)]

/-- The attribute as the class finds it. -/
def leafAttribute : Resolution where
  depth := 2
  location := ⟨.int, 0⟩
  value := .int 1
  placement := .inherited ⟨⟨2⟩, .token ⟨2⟩⟩ [⟨⟨1⟩, ⟨1⟩⟩, ⟨⟨0⟩, ⟨3⟩⟩]

/-- The node that keeps it. -/
def leafNode : CachedNode where
  guard := .chain ⟨⟨2⟩, .token ⟨2⟩⟩ [⟨⟨1⟩, ⟨1⟩⟩, ⟨⟨0⟩, ⟨3⟩⟩] 2
  location := ⟨.int, 0⟩

/-- A site reads the attribute; then its way is cut, and restored as it was. -/
def restored : List Action :=
  [.newSite "x" .standard, .read ⟨0⟩ (.object (.cls ⟨2⟩)), .setSuperclass ⟨1⟩ none,
    .setSuperclass ⟨1⟩ (some ⟨0⟩)]

/-- Every link is in place again, but the node of the site is stale, and spent for good: the next
read drops it. -/
theorem outcomes_exact_of_restored :
    let session := empty.run family
    let later := session.run restored
    leafNode.guard.check session.world (.cls ⟨2⟩) = .ok .pass ∧
      later.world.superclass ⟨2⟩ = some ⟨1⟩ ∧ later.world.superclass ⟨1⟩ = some ⟨0⟩ ∧
      leafNode.guard.check later.world (.cls ⟨2⟩) = .ok .stale ∧
      (later.site ⟨0⟩).nodes = [leafNode] ∧ later.Spent leafNode.guard := by
  intro session later
  have reached : session.Reachable := ⟨family, by decide, rfl⟩
  have reached' : later.Reachable := reached.run (by decide)
  have resolved : session.world.resolve 8 (.cls ⟨2⟩) "x" = .ok leafAttribute := by rfl
  have nodes : (later.site ⟨0⟩).nodes = [leafNode] := by rfl
  obtain ⟨guards, -⟩ := outcomes_exact reached
  obtain ⟨-, dropped⟩ := outcomes_exact reached'
  obtain ⟨guard, guarded, known, -, always⟩ := guards 8 (.cls ⟨2⟩) "x" _ (by decide) resolved
  obtain rfl : leafNode.guard = guard := Except.ok.inj guarded
  obtain ⟨before, -⟩ := always [] trivial
  obtain ⟨after, -⟩ := always restored (by decide)
  have pass := (before.pass (.cls ⟨2⟩)).2 ⟨known, by decide⟩
  have stale := (after.stale (.cls ⟨2⟩)).2 ⟨rfl, ⟨1⟩, by decide, by decide⟩
  refine ⟨pass, by decide, by decide, stale, nodes, ?_⟩
  apply dropped ⟨0⟩ (.cls ⟨2⟩) (by decide)
  · rw [nodes]
    exact List.mem_singleton_self _
  · rw [nodes]
    decide

end Session

end InlineCache
