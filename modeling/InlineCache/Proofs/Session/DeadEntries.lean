import InlineCache.Proofs.Session.Chains
import InlineCache.Proofs.Session.Outcomes
import InlineCache.Proofs.Session.Places
import InlineCache.Proofs.Site.Replay

/-!
# Dead entries

A node with an invalid token passes for no receiver any more: it is dead. A check looks at the key
of the receiver first, and at the tokens only if the key matches. So a walk drops a dead node if it
comes to it for a receiver that the node knows; for any other receiver a dead node is a miss like
every other node, and keeps its place. Dead nodes count towards the limit of a site as long as
nobody reads there from their receivers, and they can turn it generic.

## Main definitions

* `Guard.Dead`: some captured token is invalid

## Main results

* `Site.walk_kept_eq`: what a walk keeps of the nodes that it passes, and of those behind them
* `CachedNode.Backed.probed_stale_iff`: a node is stale for the receivers that it knows, once it is
  dead
* `dead_dropped_by_own_receiver`: which dead nodes a read drops, and which are left when a site
  turns generic
* `dead_entries_fill_site`: a site that turns generic with dead nodes only
-/

namespace InlineCache

/-- Some token that the guard captured is invalid. -/
def Guard.Dead (world : World) (guard : Guard) : Prop :=
  ∃ a ∈ guard.tokens, world.holds a = false

instance (world : World) (guard : Guard) : Decidable (guard.Dead world) :=
  inferInstanceAs (Decidable (∃ a ∈ guard.tokens, _))

section Node

variable {world : World} {limit : Nat} {name : String} {node : CachedNode} {receiver : ObjectId}

/-- **A node is stale** for the receivers that it knows, once it is dead. -/
theorem CachedNode.Backed.probed_stale_iff (backed : node.Backed world limit name)
    (sound : world.Sound) (hr : world.HasObject receiver) :
    Site.Probed world receiver node .stale ↔
      node.guard.Dead world ∧ node.guard.key.Matches world receiver := by
  rw [and_comm, Guard.Dead, ← Guard.verdict_eq_stale_iff]
  constructor
  · intro probed
    exact (backed.outcome_of_probed sound hr probed).symm
  · intro verdict
    obtain ⟨probe, probed, outcome⟩ := backed.exists_probed sound hr
    rw [verdict] at outcome
    cases probe with
    | hit value => cases outcome
    | miss => cases outcome
    | stale => exact probed

/-- A node that is missed does not know the receiver. -/
theorem CachedNode.Backed.not_matches_of_miss (backed : node.Backed world limit name)
    (sound : world.Sound) (hr : world.HasObject receiver)
    (missed : Site.Probed world receiver node .miss) :
    ¬ node.guard.key.Matches world receiver := by
  apply Guard.verdict_eq_miss_iff.1
  exact (backed.outcome_of_probed sound hr missed).symm

end Node

namespace Site

variable {world : World} {receiver : ObjectId} {site : Site}

/-! ## What a walk keeps -/

/-- The nodes that a walk does not come past: the one that answers, and those behind it. -/
def unpassed (world : World) (receiver : ObjectId) (nodes : List CachedNode) : List CachedNode :=
  nodes.dropWhile (isVain world receiver)

theorem passedOver_append_unpassed (world : World) (receiver : ObjectId)
    (nodes : List CachedNode) :
    passedOver world receiver nodes ++ unpassed world receiver nodes = nodes :=
  List.takeWhile_append_dropWhile

/-- **What a walk keeps**: the nodes that it passes and that are not stale, and all that it does not
come past. -/
theorem walk_kept_eq (world : World) (receiver : ObjectId) (position : Nat)
    (nodes : List CachedNode) :
    (walk world receiver position nodes).kept =
      ((passedOver world receiver nodes).filter fun node =>
        node.guard.probe world receiver node.location ≠ .ok .stale) ++
        unpassed world receiver nodes := by
  induction nodes generalizing position with
  | nil => rfl
  | cons node rest ih =>
    rw [walk, passedOver, unpassed, List.takeWhile_cons, List.dropWhile_cons, isVain]
    cases probed : node.guard.probe world receiver node.location with
    | error error => rfl
    | ok probe =>
      cases probe with
      | hit value => rfl
      | miss =>
        have keeps : node.guard.probe world receiver node.location ≠ .ok .stale := by
          rw [probed]
          intro same
          cases same
        simp only [if_true, List.filter_cons, keeps, ne_eq, not_false_eq_true, decide_true,
          List.cons_append, List.cons.injEq, true_and]
        exact ih (position + 1)
      | stale =>
        simp only [if_true, List.filter_cons, probed, ne_eq, not_true_eq_false, decide_false,
          Bool.false_eq_true, if_false]
        exact ih position

/-- Of the nodes that a walk passes it drops the dead ones that know the receiver. -/
theorem Backed.passed_nodes_eq (backed : site.Backed world) (sound : world.Sound)
    (hr : world.HasObject receiver) :
    (site.passed world receiver).nodes =
      ((passedOver world receiver site.nodes).filter fun node =>
        ¬ (node.guard.Dead world ∧ node.guard.key.Matches world receiver)) ++
        unpassed world receiver site.nodes := by
  refine (walk_kept_eq world receiver 0 site.nodes).trans (congrArg (· ++ _) ?_)
  apply List.filter_congr
  intro node mem
  have stale_iff := (backed node (List.takeWhile_subset _ mem)).probed_stale_iff sound hr
  rw [Probed] at stale_iff
  simp only [ne_eq, stale_iff]

/-- **A site turns generic** with nodes for other receivers. -/
theorem Backed.not_matches_of_turned (backed : site.Backed world) (sound : world.Sound)
    (hr : world.HasObject receiver) (was : site.terminal = .uninitialized)
    (turned : (site.readObject world receiver).site.terminal = .generic) :
    ∀ node ∈ (site.readObject world receiver).site.nodes,
      ¬ node.guard.key.Matches world receiver := by
  obtain ⟨appended, nodes, added⟩ := nodes_readObject world receiver site
  obtain generic | ⟨⟨position, fell⟩, -⟩ := terminal_readObject_iff.1 turned
  · cases was.symm.trans generic
  · cases appended with
    | some node => exact nomatch turned.symm.trans (added node rfl).2.2
    | none =>
      rw [nodes, Option.toList_none, List.append_nil]
      intro node kept
      have missed := (probed_of_fellOff fell).1 node kept
      have mem : node ∈ site.nodes := (walk_kept_sublist ..).subset kept
      exact (backed node mem).not_matches_of_miss sound hr missed

end Site

namespace Session

variable {session : Session} {id : SiteId} {action : Action} {receiver : ObjectId}

/-- **A dead node is dropped for its own receivers.** Whatever action reads at a site: of the nodes
that the walk comes to and passes it drops the dead ones that know the receiver by their key, and no
other node. A dead node for other receivers is missed, and stays. So if the read turns the site
generic, the site is full of nodes none of which knows the receiver, and every dead one among them
is for another receiver. -/
theorem dead_dropped_by_own_receiver (reached : session.Reachable)
    (admitted : session.Admits action) (reads : session.receiverAt id action = some receiver) :
    let world := session.world
    let before := (session.located action).site id
    let after := (session.after action).site id
    let tried := Site.passedOver world receiver before.nodes
    let rest := Site.unpassed world receiver before.nodes
    before.nodes = tried ++ rest ∧
      (∃ appended : Option CachedNode,
        after.nodes = (tried.filter fun node =>
          ¬ (node.guard.Dead world ∧ node.guard.key.Matches world receiver)) ++ rest ++
            appended.toList) ∧
      (before.terminal = .uninitialized → after.terminal = .generic →
        after.nodes.length = after.limits.chain ∧
          ∀ node ∈ after.nodes, ¬ node.guard.key.Matches world receiver) := by
  intro world before after tried rest
  have there : world.HasObject receiver := hasObject_of_receiverAt admitted reads
  have bound : before.nodes.length ≤ before.limits.chain := (reached.located admitted).length_le id
  have backed : before.Backed world := reached.backed_located admitted id
  have step : after = (before.readObject world receiver).site :=
    reached.site_after_of_reads admitted reads
  refine ⟨(Site.passedOver_append_unpassed ..).symm, ?_, ?_⟩
  · obtain ⟨appended, nodes, -⟩ := Site.nodes_readObject world receiver before
    refine ⟨appended, ?_⟩
    rw [step, nodes, backed.passed_nodes_eq reached.sound there]
  · intro was turned
    rw [step] at turned ⊢
    constructor
    · rw [Site.limits_readObject]
      exact Site.length_of_turned bound was turned
    · exact backed.not_matches_of_turned reached.sound there was turned

/-- Two classes inherit an attribute of their base, and a site with room for two nodes has met both.
Then each of them gets another attribute. -/
def deserted : List Action :=
  [.newRegistry, .newClass ⟨0⟩ "Base" none, .newClass ⟨0⟩ "Left" (some ⟨0⟩),
    .newClass ⟨0⟩ "Right" (some ⟨0⟩), .setAttribute ⟨0⟩ (.object (.cls ⟨0⟩)) "x" (.int 1),
    .newSite "x" ⟨2, 256, Nat.two_pos, Limits.standard.hierarchy_pos⟩,
    .read ⟨0⟩ (.object (.cls ⟨1⟩)), .read ⟨0⟩ (.object (.cls ⟨2⟩)),
    .setAttribute ⟨0⟩ (.object (.cls ⟨1⟩)) "y" (.int 2),
    .setAttribute ⟨0⟩ (.object (.cls ⟨2⟩)) "y" (.int 3)]

/-- The node for the first class. -/
def leftNode : CachedNode := ⟨.cls ⟨⟨1⟩, .token ⟨1⟩⟩ ⟨⟨0⟩, ⟨3⟩⟩, ⟨.int, 0⟩⟩

/-- The node for the second class. -/
def rightNode : CachedNode := ⟨.cls ⟨⟨2⟩, .token ⟨2⟩⟩ ⟨⟨0⟩, ⟨3⟩⟩, ⟨.int, 0⟩⟩

/-- Both nodes are dead. A read from the second class passes both, keeps the one for the first
class, and drops its own. A read from the base drops neither, and turns the site generic. -/
theorem dead_dropped_by_own_receiver_of_deserted :
    let session := empty.run deserted
    let own := (session.after (.read ⟨0⟩ (.object (.cls ⟨2⟩)))).site ⟨0⟩
    let base := (session.after (.read ⟨0⟩ (.object (.cls ⟨0⟩)))).site ⟨0⟩
    (leftNode.guard.Dead session.world ∧ rightNode.guard.Dead session.world) ∧
      (∃ appended : Option CachedNode, own.nodes = leftNode :: appended.toList) ∧
      base.terminal = .generic ∧ base.nodes.length = 2 ∧
      ∀ node ∈ base.nodes, ¬ node.guard.key.Matches session.world (.cls ⟨0⟩) := by
  intro session own base
  have reached : session.Reachable := ⟨deserted, by decide, rfl⟩
  obtain ⟨-, ⟨appended, kept⟩, -⟩ :=
    @dead_dropped_by_own_receiver session ⟨0⟩ (.read ⟨0⟩ (.object (.cls ⟨2⟩))) (.cls ⟨2⟩) reached
      (by decide) rfl
  obtain ⟨-, -, turns⟩ :=
    @dead_dropped_by_own_receiver session ⟨0⟩ (.read ⟨0⟩ (.object (.cls ⟨0⟩))) (.cls ⟨0⟩) reached
      (by decide) rfl
  have turned : base.terminal = .generic := by decide
  obtain ⟨full, others⟩ := turns rfl turned
  exact ⟨by decide, ⟨appended, kept⟩, turned, full, others⟩

/-- **Dead entries can fill a site.** The read from the base comes to both nodes, which are dead,
passes them, drops neither, and turns the site generic, with no other node in its chain. -/
theorem dead_entries_fill_site :
    let session := empty.run deserted
    let read : Action := .read ⟨0⟩ (.object (.cls ⟨0⟩))
    let before := session.site ⟨0⟩
    let after := (session.after read).site ⟨0⟩
    session.Reachable ∧ session.Admits read ∧
      session.receiverAt ⟨0⟩ read = some (.cls ⟨0⟩) ∧
      (∃ node ∈ Site.passedOver session.world (.cls ⟨0⟩) before.nodes,
        node.guard.Dead session.world ∧ node ∈ after.nodes) ∧
      before.terminal = .uninitialized ∧ after.terminal = .generic ∧
      after.nodes.length = after.limits.chain ∧
      ∀ node ∈ after.nodes, node.guard.Dead session.world := by
  intro session read before after
  have reached : session.Reachable := ⟨deserted, by decide, rfl⟩
  refine ⟨reached, by decide, rfl, ⟨leftNode, ?_, ?_, ?_⟩, rfl, by decide, rfl, by decide⟩
  · decide
  · decide
  · decide

end Session

end InlineCache
