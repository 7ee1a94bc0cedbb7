import InlineCache.Proofs.Guard.Verdict
import InlineCache.Proofs.Session.Sites
import InlineCache.Proofs.Site.Reading

/-!
# The entries of a call site

No two nodes of a site know their receivers by the same key. A node is added at the end of a walk,
for the receiver of the walk; a node with that key would have recognized the receiver, and so would
have answered the read or have been dropped as stale. So a receiver is known to one node at most by
its layout, and to one at most as an heir. Of the two only the second can be stale, and only one can
pass, since they disagree about whether the receiver has the attribute itself.

## Main definitions

* `Site.Distinct`: no two nodes have the same key

## Main results

* `CachedNode.Backed.check_eq_verdict`, `CachedNode.Backed.exists_probed`: a node finds its verdict
* `Site.Backed.fallsOff_iff`, `Site.Backed.passed_nodes`: when a walk comes to the end, and what it
  leaves
* `Reachable.distinct`: every site of a reachable session is distinct
* `entries_distinct`: at most one node passes, at most one is stale, and the order does not matter
-/

namespace InlineCache

/-! ## What a node finds -/

section Node

variable {world later : World} {limit : Nat} {name : String} {node a b : CachedNode}
  {receiver other : ObjectId} {probe : Probe}

/-- A check of a backed node finds the verdict. -/
theorem CachedNode.Backed.check_eq_verdict (backed : node.Backed world limit name)
    (receiver : ObjectId) :
    node.guard.check world receiver = .ok (node.guard.verdict world receiver) := by
  obtain ⟨earlier, first, resolution, sound, ext, created, resolved, guarded, -⟩ := backed
  have recalls := Guard.recalls_of_resolve sound created resolved guarded
  exact recalls.check_eq_verdict ext created receiver

theorem CachedNode.Backed.check_iff (backed : node.Backed world limit name)
    {outcome : GuardOutcome} :
    node.guard.check world receiver = .ok outcome ↔
      node.guard.verdict world receiver = outcome := by
  rw [backed.check_eq_verdict, Except.ok.injEq]

/-- So does a guarded fetch. -/
theorem CachedNode.Backed.exists_probed (backed : node.Backed world limit name)
    (sound : world.Sound) (hr : world.HasObject receiver) :
    ∃ probe, Site.Probed world receiver node probe ∧
      probe.outcome = node.guard.verdict world receiver := by
  obtain ⟨earlier, first, resolution, before, ext, created, resolved, guarded, slot⟩ := backed
  have recalls := Guard.recalls_of_resolve before created resolved guarded
  obtain ⟨probe, probed, outcome⟩ := recalls.exists_probe before sound ext created hr
  exact ⟨probe, by rw [Site.Probed, slot, probed], outcome⟩

theorem CachedNode.Backed.outcome_of_probed (backed : node.Backed world limit name)
    (sound : world.Sound) (hr : world.HasObject receiver)
    (probed : Site.Probed world receiver node probe) :
    probe.outcome = node.guard.verdict world receiver := by
  obtain ⟨found, probed', outcome⟩ := backed.exists_probed sound hr
  cases probed.symm.trans probed'
  exact outcome

/-- A node that passes has a value. -/
theorem CachedNode.Backed.exists_hit (backed : node.Backed world limit name)
    (sound : world.Sound) (hr : world.HasObject receiver)
    (pass : node.guard.verdict world receiver = .pass) :
    ∃ value, Site.Probed world receiver node (.hit value) := by
  obtain ⟨probe, probed, outcome⟩ := backed.exists_probed sound hr
  rw [pass] at outcome
  cases probe with
  | hit value => exact ⟨value, probed⟩
  | miss => cases outcome
  | stale => cases outcome

/-! ## Keys -/

theorem Guard.isOwn_key_iff {guard : Guard} : guard.key.isOwn = true ↔ guard.kind = .layout := by
  rcases guard with shape | ⟨captured, definer⟩ | ⟨captured, hops, depth⟩
  · exact iff_of_true rfl rfl
  all_goals
    have inherited : captured.key.isOwn = false := captured.isOwn_key
    simp [key, kind, inherited]

/-- A node that passes tells by its key whether the receiver has the attribute itself. -/
theorem CachedNode.Backed.isOwn_of_pass (backed : node.Backed world limit name)
    (sound : world.Sound) (hr : world.HasObject receiver)
    (pass : node.guard.verdict world receiver = .pass) :
    ∃ resolution, world.resolve limit receiver name = .ok resolution ∧
      (node.guard.key.isOwn = true ↔ resolution.depth = 0) := by
  obtain ⟨value, hit⟩ := backed.exists_hit sound hr pass
  obtain ⟨earlier, first, resolution, before, ext, created, resolved, guarded, slot⟩ := backed
  rw [Site.Probed, slot] at hit
  obtain ⟨again, resolved', -, depth, -⟩ :=
    resolve_of_probe_hit before sound ext created hr resolved guarded hit
  refine ⟨again, resolved', ?_⟩
  rw [Guard.isOwn_key_iff, Guard.kind_ofResolution guarded, depth]
  split
  · simp [*]
  · split <;> simp [*]

/-- Nodes that pass for one receiver have one key. -/
theorem CachedNode.Backed.key_eq_of_pass (backed : a.Backed world limit name)
    (backed' : b.Backed world limit name) (sound : world.Sound) (hr : world.HasObject receiver)
    (pass : a.guard.verdict world receiver = .pass)
    (pass' : b.guard.verdict world receiver = .pass) : a.guard.key = b.guard.key := by
  have known := (Guard.verdict_eq_pass_iff.1 pass).1
  have known' := (Guard.verdict_eq_pass_iff.1 pass').1
  apply ReceiverKey.eq_of_matches known known'
  -- both say what resolution by name says of the receiver
  obtain ⟨resolution, resolved, own⟩ := backed.isOwn_of_pass sound hr pass
  obtain ⟨resolution', resolved', own'⟩ := backed'.isOwn_of_pass sound hr pass'
  cases resolved.symm.trans resolved'
  rw [Bool.eq_iff_iff, own, own']

/-- Nodes that are stale for one receiver have one key. -/
theorem key_eq_of_stale (stale : a.guard.verdict world receiver = .stale)
    (stale' : b.guard.verdict world receiver = .stale) : a.guard.key = b.guard.key := by
  have known := (Guard.verdict_eq_stale_iff.1 stale).1
  have known' := (Guard.verdict_eq_stale_iff.1 stale').1
  apply ReceiverKey.eq_of_matches known known'
  rw [Guard.isOwn_key_of_stale stale, Guard.isOwn_key_of_stale stale']

end Node

/-! ## What a walk finds -/

namespace Site

variable {world : World} {site : Site} {receiver : ObjectId}

/-- **A walk comes to the end** if no node passes. -/
theorem Backed.fallsOff_iff (backed : site.Backed world) (sound : world.Sound)
    (hr : world.HasObject receiver) : site.FallsOff world receiver ↔
      ∀ node ∈ site.nodes, node.guard.check world receiver ≠ .ok .pass := by
  constructor
  · rintro ⟨position, fell⟩ node mem pass
    have verdict := (backed node mem).check_iff.1 pass
    obtain ⟨value, hit⟩ := (backed node mem).exists_hit sound hr verdict
    rcases (probed_of_fellOff fell).2 node mem with probed | probed
    · cases hit.symm.trans probed
    · cases hit.symm.trans probed
  · intro none
    rcases walk_stops world receiver 0 site.nodes with
      fell | ⟨node, mem, ⟨value, hit, -⟩ | ⟨error, failed, -⟩⟩
    · exact fell
    · have verdict := (backed node mem).outcome_of_probed sound hr hit
      exact absurd ((backed node mem).check_iff.2 verdict.symm) (none node mem)
    · obtain ⟨probe, probed⟩ := (backed node mem).probe_ok receiver
      exact nomatch failed.symm.trans probed

/-- A walk to the end drops the stale nodes. -/
theorem Backed.passed_nodes (backed : site.Backed world) (sound : world.Sound)
    (hr : world.HasObject receiver) (fell : site.FallsOff world receiver) :
    (site.passed world receiver).nodes =
      site.nodes.filter fun node => node.guard.check world receiver ≠ .ok .stale := by
  obtain ⟨position, fell⟩ := fell
  apply walk_kept_of_fellOff _ _ fell
  · intro node mem probed
    have verdict := (backed node mem).outcome_of_probed sound hr probed
    rw [(backed node mem).check_iff.2 verdict.symm]
    rfl
  · intro node mem probed
    have verdict := (backed node mem).outcome_of_probed sound hr probed
    rw [(backed node mem).check_iff.2 verdict.symm]
    rfl

end Site

/-! ## Distinct entries -/

namespace Site

variable {world : World} {site : Site} {receiver : ObjectId}

/-- No two nodes of the site have the same key. -/
def Distinct (site : Site) : Prop := (site.nodes.map fun node => node.guard.key).Nodup

/-- What a walk keeps is distinct still. -/
theorem Distinct.passed (distinct : site.Distinct) (world : World) (receiver : ObjectId) :
    (site.passed world receiver).Distinct :=
  ((walk_kept_sublist ..).map _).nodup distinct

/-- **A read keeps the nodes distinct**: a node that is added has a key that the walk has missed. -/
theorem Distinct.readObject (distinct : site.Distinct) (backed : site.Backed world)
    (sound : world.Sound) (hr : world.HasObject receiver) :
    (site.readObject world receiver).site.Distinct := by
  have passed := distinct.passed world receiver
  cases readObject_cases world receiver site with
  | hit value ended eq => rw [eq]; exact passed
  | failed error ended eq => rw [eq]; exact passed
  | generic fell was eq => rw [eq]; exact passed
  | full fell was room eq => rw [eq]; exact passed
  | unresolved fell was room error refused eq => rw [eq]; exact passed
  | added fell was room resolution guard resolved guarded eq =>
    rw [eq, Distinct, List.map_append, List.nodup_append]
    refine ⟨passed, List.pairwise_singleton _ _, ?_⟩
    intro key mem new mem' same
    obtain ⟨node, kept, rfl⟩ := List.mem_map.1 mem
    rw [List.map_singleton, List.mem_singleton] at mem'
    subst mem'
    obtain ⟨position, fell⟩ := fell
    have missed := (probed_of_fellOff fell).1 node kept
    have node_backed := backed node ((walk_kept_sublist ..).subset kept)
    have verdict := (node_backed.outcome_of_probed sound hr missed).symm
    have known := (Guard.recalls_of_resolve sound hr resolved guarded).key_matches
    change node.guard.key = guard.key at same
    rw [← same] at known
    exact Guard.verdict_eq_miss_iff.1 verdict known

/-- At most one node passes. -/
theorem Distinct.atMostOne_pass (distinct : site.Distinct) (backed : site.Backed world)
    (sound : world.Sound) (hr : world.HasObject receiver) :
    AtMostOne (fun node => node.guard.verdict world receiver = .pass) site.nodes := by
  refine atMostOne_of_nodup distinct ?_
  intro a ha b hb
  exact (backed a ha).key_eq_of_pass (backed b hb) sound hr

/-- At most one node is stale. -/
theorem Distinct.atMostOne_stale (distinct : site.Distinct) (world : World)
    (receiver : ObjectId) :
    AtMostOne (fun node => node.guard.verdict world receiver = .stale) site.nodes :=
  atMostOne_of_nodup distinct fun _ _ _ _ => key_eq_of_stale

end Site

namespace Session

variable {session : Session}

/-- **Every site of a reachable session is distinct.** -/
theorem Reachable.distinct (reached : session.Reachable) (id : SiteId) :
    (session.site id).Distinct :=
  Reachable.site_induction (motive := fun _ site => site.Distinct) (fun _ _ _ => List.nodup_nil)
    (fun _ _ _ _ _ distinct => distinct)
    (fun _ _ _ sound there backed distinct => distinct.readObject backed sound there) reached id

/-- **The entries of a site are distinct**: no two know their receivers by the same key. So,
whatever the receiver, at most one of them passes and at most one is stale, and the node that
answers is the same in any order of the nodes. -/
theorem entries_distinct (reached : session.Reachable) (id : SiteId) :
    let world := session.world
    let nodes := (session.site id).nodes
    (nodes.map fun node => node.guard.key).Nodup ∧
      ∀ receiver, world.HasObject receiver →
        AtMostOne (fun node => node.guard.check world receiver = .ok .pass) nodes ∧
        AtMostOne (fun node => node.guard.check world receiver = .ok .stale) nodes ∧
        ∀ order, order.Perm nodes →
          Site.answering world receiver order = Site.answering world receiver nodes ∧
          ∀ value, (Site.walk world receiver 0 order).ending = .hit value ↔
            ∃ node ∈ Site.answering world receiver nodes,
              Site.Probed world receiver node (.hit value) := by
  intro world nodes
  have sound := reached.sound
  have backed := reached.backed id
  have distinct := reached.distinct id
  refine ⟨distinct, ?_⟩
  intro receiver there
  have pass := distinct.atMostOne_pass backed sound there
  have stale := distinct.atMostOne_stale world receiver
  have hits : AtMostOne (Site.hits world receiver · = true) nodes := by
    refine pass.imp_of_mem fun node mem probed => ?_
    obtain ⟨value, probed⟩ := Site.hits_iff.1 probed
    exact ((backed node mem).outcome_of_probed sound there probed).symm
  refine ⟨?_, ?_, ?_⟩
  · exact pass.imp_of_mem fun node mem checked => (backed node mem).check_iff.1 checked
  · exact stale.imp_of_mem fun node mem checked => (backed node mem).check_iff.1 checked
  · intro order perm
    have same : Site.answering world receiver order = Site.answering world receiver nodes :=
      hits.find?_eq_of_perm perm
    refine ⟨same, fun value => ?_⟩
    rw [← same]
    apply Site.walk_hit_iff
    intro node mem
    obtain ⟨probe, probed, -⟩ := (backed node (perm.mem_iff.1 mem)).exists_probed sound there
    exact ⟨probe, probed⟩

/-- A class inherits an attribute, and then gets its own. A site has met it as an heir, and its base
as an owner of the layout that it comes to have. -/
def overridden : List Action :=
  [.newRegistry, .newClass ⟨0⟩ "Base" none, .newClass ⟨0⟩ "Derived" (some ⟨0⟩),
    .setAttribute ⟨0⟩ (.object (.cls ⟨0⟩)) "x" (.int 1), .newSite "x" .standard,
    .read ⟨0⟩ (.object (.cls ⟨1⟩)), .read ⟨0⟩ (.object (.cls ⟨0⟩)),
    .setAttribute ⟨0⟩ (.object (.cls ⟨1⟩)) "x" (.int 2)]

/-- One node is stale for the class and the other one passes, which answers in either order. -/
theorem entries_distinct_of_overridden :
    let session := empty.run overridden
    let nodes := (session.site ⟨0⟩).nodes
    nodes.map (fun node => node.guard.check session.world (.cls ⟨1⟩)) = [.ok .stale, .ok .pass] ∧
      (nodes.map fun node => node.guard.key).Nodup ∧
      Site.answering session.world (.cls ⟨1⟩) nodes.reverse =
        Site.answering session.world (.cls ⟨1⟩) nodes ∧
      (Site.walk session.world (.cls ⟨1⟩) 0 nodes.reverse).ending = .hit (.int 2) := by
  intro session nodes
  have reached : session.Reachable := ⟨overridden, by decide, rfl⟩
  obtain ⟨distinct, found⟩ := entries_distinct reached ⟨0⟩
  obtain ⟨-, -, order⟩ := found (.cls ⟨1⟩) (by decide)
  obtain ⟨same, answers⟩ := order nodes.reverse (List.reverse_perm _)
  have hit : Site.Probed session.world (.cls ⟨1⟩) ⟨.layout (session.world.layout (.cls ⟨1⟩)),
      ⟨.int, 0⟩⟩ (.hit (.int 2)) := rfl
  exact ⟨rfl, distinct, same, (answers (.int 2)).2 ⟨_, rfl, hit⟩⟩

end Session

end InlineCache
