import InlineCache.Proofs.Session.Accounts
import InlineCache.Proofs.Session.Chains
import InlineCache.Proofs.Site.Loop

/-!
# The walk of a read ends

A read tries the nodes of its site in their order, each at most once, up to the first one that hits.
It counts every node that it tries, as a hit, as a miss or as a prune, and a site has no more nodes
than its limit, so the limit bounds what a read costs. Of the loop over the links of the chain the
same holds: it ends after at most one turn more than there are nodes, although it reads a link again
that it has rewritten, and wherever it stands, its position is the number of nodes that are ahead in
the chain as it is by then.

## Main definitions

* `Counters.Charged`: nodes were counted, each as a hit, as a miss or as a prune

## Main results

* `Site.counters_readObject`, `Site.Backed.charged_readObject`: what a read counts of its walk
* `Site.Backed.loop_follows`: the loop of a read ends, and does what the walk does
* `nodes_tried_once`: which nodes a read tries, what it counts, and how its loop ends
-/

namespace InlineCache

/-- So many nodes were counted, each once, as a hit, as a miss or as a prune. -/
def Counters.Charged (before after : Counters) (tried : Nat) : Prop :=
  ∃ hit missed pruned, hit + missed + pruned = tried ∧ after.hits = before.hits + hit ∧
    after.misses = before.misses + missed ∧ after.prunes = before.prunes + pruned

namespace Site

variable {world : World} {receiver : ObjectId} {site : Site}

/-- **What a read counts of its walk**: how the walk ended, and the nodes that it has passed over.
The end of the list is counted elsewhere. -/
theorem counters_readObject (world : World) (receiver : ObjectId) (site : Site) :
    let walked := walk world receiver 0 site.nodes
    let counted := walked.ending.count
      (site.counters.addRead.addPassedOver walked.misses walked.prunes)
    let after := (site.readObject world receiver).site.counters
    after.hits = counted.hits ∧ after.misses = counted.misses ∧ after.prunes = counted.prunes := by
  intro walked counted after
  cases readObject_cases world receiver site with
  | hit value ended eq =>
    simp only [after, counted, walked, eq, ended]
    exact ⟨rfl, rfl, rfl⟩
  | failed error ended eq =>
    simp only [after, counted, walked, eq, ended]
    exact ⟨rfl, rfl, rfl⟩
  | generic fell _ eq | full fell _ _ eq | unresolved fell _ _ _ _ eq | added fell _ _ _ _ _ _ eq =>
    obtain ⟨position, ended⟩ := fell
    simp only [after, counted, walked, eq, ended]
    exact ⟨rfl, rfl, rfl⟩

/-- No node of a backed site is in a state that should have been ruled out. -/
theorem Backed.sane (backed : site.Backed world) (receiver : ObjectId) :
    ∀ node ∈ site.nodes, ∃ probe, Probed world receiver node probe :=
  fun node mem => (backed node mem).probe_ok receiver

/-- **A read counts the nodes that it tries**, each once. -/
theorem Backed.charged_readObject (backed : site.Backed world) (receiver : ObjectId) :
    site.counters.Charged (site.readObject world receiver).site.counters
      (tried world receiver site.nodes).length := by
  obtain ⟨hits, misses, prunes⟩ := counters_readObject world receiver site
  have passed := misses_add_prunes world receiver 0 site.nodes
  have answers := @walk_hit_iff world receiver 0 site.nodes (backed.sane receiver)
  rw [tried, List.length_append, ← passed]
  cases ended : (walk world receiver 0 site.nodes).ending with
  | failed error => exact absurd ended (backed.ending_ne_failed receiver error)
  | hit value =>
    obtain ⟨node, answering, -⟩ := answers.1 ended
    rw [ended] at hits misses prunes
    rw [Option.mem_def.1 answering]
    exact ⟨1, _, _, by rw [Nat.add_assoc, Nat.add_comm]; rfl, hits, misses, prunes⟩
  | fellOff position =>
    have nobody : answering world receiver site.nodes = none := by
      cases found : answering world receiver site.nodes with
      | none => rfl
      | some node =>
        obtain ⟨value, hit⟩ := hits_iff.1 (List.find?_some found)
        cases ended.symm.trans (answers.2 ⟨node, found, hit⟩)
    rw [ended] at hits misses prunes
    rw [nobody]
    exact ⟨0, _, _, by rw [Nat.zero_add]; rfl, hits, misses, prunes⟩

/-- The nodes of a distinct site are distinct themselves. -/
theorem Distinct.nodup (distinct : site.Distinct) : site.nodes.Nodup :=
  List.Nodup.of_map _ distinct

/-- **The loop of a read ends**, over whatever links the nodes of the site are laid out, and
whenever it does, it has done what the walk does. -/
theorem Backed.loop_follows (backed : site.Backed world) (receiver : ObjectId) {links : Links}
    {head : LinkId} (chain : links.Chain head site.terminal site.nodes) :
    let start := Cursor.enter links head site.counters.addRead
    (∃ run last ending, Loops world receiver start run last ending) ∧
      ∀ run last ending, Loops world receiver start run last ending →
        start.Follows world receiver head site.terminal [] site.nodes
          (walk world receiver 0 site.nodes) run last := by
  intro start
  obtain ⟨entries, nodes, ends, distinct⟩ := chain
  have sane : ∀ entry ∈ entries, ∃ probe, Probed world receiver entry.1 probe := by
    intro entry mem
    apply backed.sane receiver
    rw [← nodes]
    exact List.mem_map_of_mem mem
  obtain ⟨run, last, kept, follows, -⟩ :=
    (Cursor.Stands.enter ends distinct site.counters.addRead).exists_follows sane
  rw [nodes] at follows
  refine ⟨⟨run, last, _, follows.loops⟩, ?_⟩
  intro run' last' ending' loops
  obtain ⟨rfl, rfl, -⟩ := follows.loops.unique loops
  exact follows

end Site

namespace Session

variable {session : Session} {action : Action}

/-- **A read tries each node at most once.** Whatever action reads at a site, it tries the nodes of
the site in their order, without leaving one out, up to the first one that hits. Each node that it
tries is counted once, as a hit, as a miss or as a prune, and there are no more of them than the
site has nodes, which is no more than its limit. The walk does not fail. Over whatever links the
chain of the site is laid out, the loop of the read ends, and when it has ended, it has probed those
nodes in at most one turn more than the site has nodes; in each of its turns it has stood in the
live chain, with as many nodes ahead as its position said. An action that does not read at the site
counts nothing. -/
theorem nodes_tried_once (reached : session.Reachable) (admitted : session.Admits action)
    (id : SiteId) :
    let world := session.world
    let before := (session.located action).site id
    let after := (session.after action).site id
    (∀ receiver, session.receiverAt id action = some receiver →
      let walked := Site.walk world receiver 0 before.nodes
      let tried := Site.tried world receiver before.nodes
      (tried <+: before.nodes ∧ tried.Nodup ∧
        (Site.answering world receiver before.nodes = none → tried = before.nodes)) ∧
      (before.counters.Charged after.counters tried.length ∧
        tried.length ≤ before.nodes.length ∧ before.nodes.length ≤ before.limits.chain) ∧
      (∀ error, walked.ending ≠ .failed error) ∧
      ∀ links head, links.Chain head before.terminal before.nodes →
        let start := Cursor.enter links head before.counters.addRead
        (∃ run last ending, Loops world receiver start run last ending) ∧
          ∀ run last ending, Loops world receiver start run last ending →
            start.Follows world receiver head before.terminal [] before.nodes walked run last) ∧
      (session.receiverAt id action = none → after.counters = before.counters) := by
  intro world before after
  have backed : before.Backed world := reached.backed_located admitted id
  have distinct : before.Distinct := (reached.located admitted).distinct id
  constructor
  · intro receiver reads walked tried
    have sane := backed.sane receiver
    have inOrder : tried <+: before.nodes := Site.prefix_tried sane
    have step : after = (before.readObject world receiver).site :=
      reached.site_after_of_reads admitted reads
    refine ⟨⟨inOrder, ?_, Site.tried_eq_self sane⟩, ⟨?_, inOrder.length_le, ?_⟩, ?_, ?_⟩
    · exact distinct.nodup.sublist inOrder.sublist
    · rw [step]
      exact backed.charged_readObject receiver
    · exact (reached.located admitted).length_le id
    · exact backed.ending_ne_failed receiver
    · intro links head chain
      exact backed.loop_follows receiver chain
  · intro idle
    exact (counters_after_of_idle admitted idle).trans (counters_located session action id).symm

/-- A site meets a module, a class that inherits an attribute, and its base, which has it. Then the
class gets its own, in the layout of the base. -/
def weaned : List Action :=
  [.newRegistry, .newClass ⟨0⟩ "Base" none, .newClass ⟨0⟩ "Derived" (some ⟨0⟩),
    .newModule ⟨0⟩ "m", .setAttribute ⟨0⟩ (.object (.cls ⟨0⟩)) "x" (.int 1),
    .setAttribute ⟨0⟩ (.object (.mod ⟨0⟩)) "x" (.str "one"), .newSite "x" .standard,
    .read ⟨0⟩ (.object (.mod ⟨0⟩)), .read ⟨0⟩ (.object (.cls ⟨1⟩)),
    .read ⟨0⟩ (.object (.cls ⟨0⟩)), .setAttribute ⟨0⟩ (.object (.cls ⟨1⟩)) "x" (.int 2)]

/-- The next read from the class tries all three nodes: it misses the first one, drops the second
one, and the third one hits. The loop has seen the second and the third one at the same position. -/
theorem nodes_tried_once_of_weaned :
    let session := empty.run weaned
    let site := session.site ⟨0⟩
    let read : Action := .read ⟨0⟩ (.object (.cls ⟨1⟩))
    let links := Links.ofNodes site.nodes site.terminal
    (site.nodes.length = 3 ∧ site.nodes.Nodup ∧
        site.counters.Charged ((session.after read).site ⟨0⟩).counters 3) ∧
      ∃ run last, Loops session.world (.cls ⟨1⟩)
          (Cursor.enter links ⟨0⟩ site.counters.addRead) run last (.hit (.int 2)) ∧
        run.filterMap Cursor.node? = site.nodes ∧ run.length ≤ 4 ∧
        last.events = [.missed 0, .pruned 1] := by
  intro session site read links
  have reached : session.Reachable := ⟨weaned, by decide, rfl⟩
  obtain ⟨reads, -⟩ := @nodes_tried_once session read reached (by decide) ⟨0⟩
  obtain ⟨⟨-, nodup, -⟩, ⟨charged, -, -⟩, -, loop⟩ := reads (.cls ⟨1⟩) rfl
  have all : Site.tried session.world (.cls ⟨1⟩) site.nodes = site.nodes := by decide
  obtain ⟨⟨run, last, ending, loops⟩, follows⟩ := loop links ⟨0⟩ (Links.chain_ofNodes _ _)
  obtain ⟨loops, turns, tried, -, -, -, events⟩ := follows run last ending loops
  have ended : (Site.walk session.world (.cls ⟨1⟩) 0 site.nodes).ending = .hit (.int 2) := by
    decide
  have reported : (Site.walk session.world (.cls ⟨1⟩) 0 site.nodes).events =
      [.missed 0, .pruned 1] := by decide
  refine ⟨⟨rfl, all ▸ nodup, charged⟩, run, last, ?_, tried.trans all, turns,
    events.trans reported⟩
  rw [← ended]
  exact loops

end Session

end InlineCache
