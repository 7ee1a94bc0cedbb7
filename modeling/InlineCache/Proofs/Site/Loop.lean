import InlineCache.Proofs.Site.Links
import InlineCache.Proofs.Site.Replay
import Mathlib.Data.List.TakeWhile

/-!
# The loop of a read

Over a chain of links a read is a loop that stands at one link after another. If the node that the
link holds is missed, the loop goes on at the link that the node owns. If the node is stale, it is
unlinked, and the loop reads the very same link again, which holds the node behind by then.

Neither the link nor the position counts the turns of this loop. What does is the number of nodes
below the link: each turn but the last leaves one node less there, either because it is ahead now or
because it is gone. So the loop ends, and has done what the walk along the list of nodes does. Its
position counts the nodes ahead all the time, since a stale node is taken from those below.

## Main definitions

* `Cursor`, `Cursor.turn`, `Loops`: the loop, turn by turn, and a whole run of it
* `Cursor.Stands`: the loop stands in the live chain, and its position counts the nodes ahead
* `Site.tried`: the nodes that a read tries
* `Cursor.Follows`: a run of the loop does what a walk did
* `Cursor.Leaves`: what a run of the loop leaves of the links, entry by entry

## Main results

* `Loops.unique`: there is one run of the loop from a cursor
* `Loops.keeps`: a run of the loop keeps what no write undoes
* `Stands.after_miss`, `Stands.after_stale`: a turn that goes on keeps the loop in the live chain
* `Stands.exists_follows`: the loop ends, and does what the walk does
-/

namespace InlineCache

/-! ## The loop of a read -/

/-- Where the loop of a read stands, with what it has counted and reported so far. -/
structure Cursor where
  /-- The links as they are by now. -/
  links : Links
  /-- The link at which the loop stands. -/
  link : LinkId
  /-- The number that the loop carries for the nodes that it has passed and left there. -/
  position : Nat
  /-- The counters of the site by now. -/
  counters : Counters
  /-- The reports so far. -/
  events : List SiteEvent

/-- What one turn of the loop comes to. -/
inductive Turn where
  /-- The loop goes on from here. -/
  | again (next : Cursor)
  /-- The loop has ended here. -/
  | ended (last : Cursor) (ending : Site.Ending)

namespace Cursor

/-- The loop enters a chain. -/
def enter (links : Links) (head : LinkId) (counters : Counters) : Cursor :=
  ⟨links, head, 0, counters, []⟩

/-- The node that the loop has before it, which its turn probes. -/
def node? (cursor : Cursor) : Option CachedNode :=
  match (cursor.links.get cursor.link).node with
  | .cached node _ => some node
  | .terminal _ => none

/-- The loop goes on at the link that the node owns. -/
def stepPast (cursor : Cursor) (next : LinkId) : Cursor :=
  { cursor with link := next, position := cursor.position + 1 }

/-- It does so since it has missed the node. -/
def missed (cursor : Cursor) (next : LinkId) : Cursor :=
  { cursor.stepPast next with
    counters := cursor.counters.addPassedOver 1 0
    events := cursor.events ++ [.missed cursor.position] }

/-- The loop stays at its link, from which the node is gone. -/
def pruned (cursor : Cursor) (links : Links) : Cursor :=
  { cursor with
    links
    counters := cursor.counters.addPassedOver 0 1
    events := cursor.events ++ [.pruned cursor.position] }

/-- **One turn of the loop**: it reads the link at which it stands, and probes the node there. -/
def turn (world : World) (receiver : ObjectId) (cursor : Cursor) : Turn :=
  match (cursor.links.get cursor.link).node with
  | .terminal _ => .ended cursor (.fellOff cursor.position)
  | .cached node next =>
    match node.guard.probe world receiver node.location with
    | .ok (.hit value) => .ended { cursor with counters := cursor.counters.addHit } (.hit value)
    | .ok .miss => .again (cursor.missed next)
    | .ok .stale =>
      match cursor.links.prune cursor.link (.cached node next) with
      | some links => .again (cursor.pruned links)
      -- a retired link keeps its stale node, so there is no use in reading it again
      | none => .again (cursor.stepPast next)
    | .error error => .ended cursor (.failed error)

end Cursor

/-- The loop stands at these cursors in turn, and then has ended. -/
inductive Loops (world : World) (receiver : ObjectId) :
    Cursor → List Cursor → Cursor → Site.Ending → Prop
  /-- The first turn is the last. -/
  | ended {cursor last : Cursor} {ending : Site.Ending}
    (turn : cursor.turn world receiver = .ended last ending) :
    Loops world receiver cursor [cursor] last ending
  /-- The loop goes on after the first turn. -/
  | again {cursor next last : Cursor} {stands : List Cursor} {ending : Site.Ending}
    (turn : cursor.turn world receiver = .again next)
    (rest : Loops world receiver next stands last ending) :
    Loops world receiver cursor (cursor :: stands) last ending

/-- **A run of the loop is the only one** from its cursor. -/
theorem Loops.unique {world : World} {receiver : ObjectId} {cursor last last' : Cursor}
    {stands stands' : List Cursor} {ending ending' : Site.Ending}
    (loops : Loops world receiver cursor stands last ending)
    (loops' : Loops world receiver cursor stands' last' ending') :
    stands = stands' ∧ last = last' ∧ ending = ending' := by
  induction loops generalizing stands' with
  | ended turn =>
    cases loops' with
    | ended turn' =>
      cases turn.symm.trans turn'
      exact ⟨rfl, rfl, rfl⟩
    | again turn' rest' => cases turn.symm.trans turn'
  | again turn rest ih =>
    cases loops' with
    | ended turn' => cases turn.symm.trans turn'
    | again turn' rest' =>
      cases turn.symm.trans turn'
      obtain ⟨rfl, same⟩ := ih rest'
      exact ⟨rfl, same⟩

/-- A turn keeps retired links, and generic ends. -/
theorem Cursor.keeps_turn {world : World} {receiver : ObjectId} {cursor next : Cursor}
    (created : Nat) (turn : cursor.turn world receiver = .again next) :
    Links.Keeps created cursor.links next.links := by
  unfold Cursor.turn at turn
  split at turn
  · cases turn
  · split at turn
    · cases turn
    · cases turn
      exact .refl _ _
    · split at turn
      · next pruned =>
        cases turn
        exact Links.keeps_prune pruned
      · cases turn
        exact .refl _ _
    · cases turn

/-- The last turn writes no link. -/
theorem Cursor.links_of_ended {world : World} {receiver : ObjectId} {cursor last : Cursor}
    {ending : Site.Ending} (turn : cursor.turn world receiver = .ended last ending) :
    last.links = cursor.links := by
  unfold Cursor.turn at turn
  split at turn
  · cases turn
    rfl
  · split at turn
    · cases turn
      rfl
    · cases turn
    · split at turn <;> cases turn
    · cases turn
      rfl

/-- **A run of the loop** keeps retired links, and generic ends. -/
theorem Loops.keeps {world : World} {receiver : ObjectId} {cursor last : Cursor}
    {stands : List Cursor} {ending : Site.Ending}
    (loops : Loops world receiver cursor stands last ending) (created : Nat) :
    Links.Keeps created cursor.links last.links := by
  induction loops with
  | ended turn =>
    rw [Cursor.links_of_ended turn]
    exact .refl _ _
  | again turn rest ih => exact (Cursor.keeps_turn created turn).trans ih (Nat.le_refl _)

/-- **The loop stands in the live chain** of the head: from the head one comes by the nodes `ahead`
to its link, and from there by the nodes `below` to the end. Its position is the number of nodes
ahead. -/
structure Cursor.Stands (cursor : Cursor) (head : LinkId) (terminal : Terminal)
    (ahead below : List (CachedNode × LinkId)) : Prop where
  leads : cursor.links.Leads head ahead cursor.link
  ends : cursor.links.Ends terminal cursor.link below
  distinct : (Links.along head (ahead ++ below)).Nodup
  position : cursor.position = ahead.length

section Loop

variable {world : World} {receiver : ObjectId} {cursor : Cursor} {head next : LinkId}
  {terminal : Terminal} {node : CachedNode} {ahead below : List (CachedNode × LinkId)}

namespace Cursor.Stands

/-- The loop stands in the chain that it has entered. -/
theorem enter {links : Links} {entries : List (CachedNode × LinkId)}
    (ends : links.Ends terminal head entries) (distinct : (Links.along head entries).Nodup)
    (counters : Counters) : (Cursor.enter links head counters).Stands head terminal [] entries :=
  ⟨rfl, ends, distinct, rfl⟩

/-- The chain has the nodes ahead and the nodes below. -/
theorem chain (stands : cursor.Stands head terminal ahead below) :
    cursor.links.Chain head terminal ((ahead ++ below).map Prod.fst) := by
  obtain ⟨last, leads, ended⟩ := stands.ends
  exact ⟨ahead ++ below, rfl, ⟨last, stands.leads.append leads, ended⟩, stands.distinct⟩

theorem held (stands : cursor.Stands head terminal ahead ((node, next) :: below)) :
    cursor.links.get cursor.link = ⟨.cached node next, false⟩ := by
  obtain ⟨last, leads, -⟩ := stands.ends
  exact leads.1

/-- The links of the chain: those that are read on the way to the loop, the one at which it stands,
the one that its node owns, and those behind. -/
theorem nodup (stands : cursor.Stands head terminal ahead ((node, next) :: below)) :
    ((Links.along head ahead).dropLast ++ cursor.link :: next :: below.map Prod.snd).Nodup := by
  have distinct := stands.distinct
  rwa [Links.along_append, stands.leads.along_eq, List.append_assoc] at distinct

/-- **A miss**: the node is ahead from here on. -/
theorem after_miss (stands : cursor.Stands head terminal ahead ((node, next) :: below)) :
    (cursor.missed next).Stands head terminal (ahead ++ [(node, next)]) below where
  leads := stands.leads.snoc stands.held
  ends := by
    obtain ⟨last, leads, ended⟩ := stands.ends
    exact ⟨last, leads.2, ended⟩
  distinct := by
    rw [List.append_assoc]
    exact stands.distinct
  position := by
    rw [List.length_append, List.length_singleton, ← stands.position]
    rfl

/-- **A stale node** is unlinked where the loop stands, and is neither ahead nor below from here
on. -/
theorem after_stale (stands : cursor.Stands head terminal ahead ((node, next) :: below)) :
    ∃ links, cursor.links.prune cursor.link (.cached node next) = some links ∧
      (links.get next).retired = true ∧ (cursor.pruned links).Stands head terminal ahead below := by
  -- the link of the loop and the one that the node owns occur nowhere else in the chain
  obtain ⟨-, nodup, apart⟩ := List.nodup_append.1 stands.nodup
  obtain ⟨fresh, nodup⟩ := List.nodup_cons.1 nodup
  obtain ⟨fresh', -⟩ := List.nodup_cons.1 nodup
  have other : next ≠ cursor.link := fun same => fresh (same ▸ List.mem_cons_self ..)
  obtain ⟨links, pruned, moved, retired, same⟩ := Links.exists_prune stands.held other
  refine ⟨links, pruned, retired, ?_, ?_, ?_, stands.position⟩
  · refine stands.leads.congr fun far mem => same far ?_ ?_
    · exact apart far mem _ (List.mem_cons_self ..)
    · exact apart far mem _ (List.mem_cons_of_mem _ (List.mem_cons_self ..))
  · obtain ⟨last, leads, ended⟩ := stands.ends
    refine Links.Ends.moveUp ⟨last, leads.2, ended⟩ moved fun far mem => same far ?_ ?_
    · rintro rfl
      exact fresh (List.mem_cons_of_mem _ mem)
    · rintro rfl
      exact fresh' mem
  · have fewer : (ahead ++ below).Sublist (ahead ++ (node, next) :: below) :=
      (List.sublist_cons_self ..).append_left ahead
    exact stands.distinct.sublist ((fewer.map Prod.snd).cons_cons head)

end Cursor.Stands

/-! ## The nodes that a read tries -/

/-- The counters once a walk has ended like this. -/
def Site.Ending.count (counters : Counters) : Site.Ending → Counters
  | .hit _ => counters.addHit
  | _ => counters

/-- The nodes that a read tries: those that it passes over, and the one that answers, if one
does. -/
def Site.tried (world : World) (receiver : ObjectId) (nodes : List CachedNode) :
    List CachedNode :=
  passedOver world receiver nodes ++ (answering world receiver nodes).toList

theorem Site.passedOver_of_vain (vain : isVain world receiver node = true)
    (rest : List CachedNode) :
    passedOver world receiver (node :: rest) = node :: passedOver world receiver rest :=
  List.takeWhile_cons_of_pos vain

theorem Site.tried_of_hit {value : Value} (hit : Probed world receiver node (.hit value))
    (rest : List CachedNode) : tried world receiver (node :: rest) = [node] := by
  unfold Probed at hit
  simp [tried, passedOver, answering, isVain, hits, hit]

theorem Site.tried_of_vain (vain : isVain world receiver node = true) (rest : List CachedNode) :
    tried world receiver (node :: rest) = node :: tried world receiver rest := by
  have idle : hits world receiver node = false := by
    unfold isVain at vain
    unfold hits
    split
    · next hit => simp [hit] at vain
    · rfl
  rw [tried, passedOver_of_vain vain, answering, List.find?_cons_of_neg (by simp [idle])]
  rfl

theorem Site.isVain_of_miss (miss : Probed world receiver node .miss) :
    isVain world receiver node = true := by
  unfold Probed at miss
  rw [isVain, miss]

theorem Site.isVain_of_stale (stale : Probed world receiver node .stale) :
    isVain world receiver node = true := by
  unfold Probed at stale
  rw [isVain, stale]

/-- Nothing but what a probe finds decides whether a node is tried in vain. -/
theorem Site.tried_of_probed {probe : Probe} (probed : Probed world receiver node probe)
    (rest : List CachedNode) :
    tried world receiver (node :: rest) = [node] ∨
      tried world receiver (node :: rest) = node :: tried world receiver rest := by
  cases probe with
  | hit value => exact .inl (tried_of_hit probed rest)
  | miss => exact .inr (tried_of_vain (isVain_of_miss probed) rest)
  | stale => exact .inr (tried_of_vain (isVain_of_stale probed) rest)

/-- **The nodes are tried in their order**, without leaving one out. -/
theorem Site.prefix_tried {nodes : List CachedNode}
    (sane : ∀ node ∈ nodes, ∃ probe, Probed world receiver node probe) :
    tried world receiver nodes <+: nodes := by
  induction nodes with
  | nil => exact List.prefix_refl _
  | cons node rest ih =>
    obtain ⟨⟨probe, probed⟩, rest_sane⟩ := List.forall_mem_cons.1 sane
    rcases tried_of_probed probed rest with only | more
    · rw [only]
      exact ⟨rest, rfl⟩
    · rw [more]
      exact List.cons_prefix_cons.2 ⟨rfl, ih rest_sane⟩

/-- If no node answers, all of them are tried. -/
theorem Site.tried_eq_self {nodes : List CachedNode}
    (sane : ∀ node ∈ nodes, ∃ probe, Probed world receiver node probe)
    (nobody : answering world receiver nodes = none) : tried world receiver nodes = nodes := by
  have vain : ∀ node ∈ nodes, isVain world receiver node = true := by
    intro node mem
    obtain ⟨probe, probed⟩ := sane node mem
    cases probe with
    | hit value => exact absurd (hits_iff.2 ⟨value, probed⟩) (List.find?_eq_none.1 nobody node mem)
    | miss => exact isVain_of_miss probed
    | stale => exact isVain_of_stale probed
  rw [tried, passedOver, List.takeWhile_eq_self_iff.2 vain, nobody, Option.toList_none,
    List.append_nil]

/-- A walk counts the nodes that it passes over, each as a miss or as a prune. -/
theorem Site.misses_add_prunes (world : World) (receiver : ObjectId) (position : Nat)
    (nodes : List CachedNode) :
    (walk world receiver position nodes).misses + (walk world receiver position nodes).prunes =
      (passedOver world receiver nodes).length := by
  induction nodes generalizing position with
  | nil => rfl
  | cons node rest ih =>
    rw [walk]
    split
    · next hit => simp [passedOver, isVain, hit]
    · next miss =>
      have counted := ih (position + 1)
      rw [passedOver_of_vain (isVain_of_miss miss), List.length_cons]
      dsimp only
      omega
    · next stale =>
      have counted := ih position
      rw [passedOver_of_vain (isVain_of_stale stale), List.length_cons]
      dsimp only
      omega
    · next failed => simp [passedOver, isVain, failed]

theorem Counters.addPassedOver_addPassedOver (c : Counters) (m p m' p' : Nat) :
    (c.addPassedOver m p).addPassedOver m' p' = c.addPassedOver (m' + m) (p' + p) := by
  simp only [addPassedOver, Nat.add_assoc, Nat.add_comm m', Nat.add_comm p']

/-- **A run of the loop does what a walk did**, with the nodes `ahead` and `below`. It ends as the
walk does, after no more turns than there are nodes below, and one; it tries the nodes that a read
tries, in their order; whenever it stands at a link, it stands in the live chain; and it leaves the
nodes that the walk keeps, the counts of the walk, and its reports. -/
structure Cursor.Follows (start : Cursor) (world : World) (receiver : ObjectId) (head : LinkId)
    (terminal : Terminal) (ahead below : List CachedNode) (walked : Site.Walk)
    (run : List Cursor) (last : Cursor) : Prop where
  loops : Loops world receiver start run last walked.ending
  turns : run.length ≤ below.length + 1
  tried : run.filterMap Cursor.node? = Site.tried world receiver below
  live : ∀ stand ∈ run, ∃ ahead below, stand.Stands head terminal ahead below
  chain : last.links.Chain head terminal (ahead ++ walked.kept)
  counters : last.counters =
    walked.ending.count (start.counters.addPassedOver walked.misses walked.prunes)
  events : last.events = start.events ++ walked.events

/-- What a run of the loop leaves of the chain, entry by entry: from the head one comes by the
entries ahead and those of `below` that are kept to the end. The others have their link retired. If
the loop has come to the end, it stands there. -/
structure Cursor.Leaves (head : LinkId) (terminal : Terminal)
    (ahead below kept : List (CachedNode × LinkId)) (last : Cursor) (ending : Site.Ending) :
    Prop where
  ends : last.links.Ends terminal head (ahead ++ kept)
  sublist : kept.Sublist below
  retired : ∀ entry ∈ below, entry ∉ kept → (last.links.get entry.2).retired = true
  arrives : ∀ position, ending = .fellOff position → last.Stands head terminal (ahead ++ kept) []

namespace Cursor.Stands

variable {walked : Site.Walk} {run : List Cursor} {last : Cursor}

theorem node?_eq (stands : cursor.Stands head terminal ahead ((node, next) :: below)) :
    cursor.node? = some node := by
  rw [node?, stands.held]

/-- At the end of the chain the loop has fallen off. -/
theorem follows_end (stands : cursor.Stands head terminal ahead []) :
    cursor.Follows world receiver head terminal (ahead.map Prod.fst) []
      (Site.walk world receiver cursor.position []) [cursor] cursor := by
  obtain ⟨last, leads, ended⟩ := stands.ends
  cases leads
  have nothing : cursor.node? = none := by rw [node?, ended]
  refine ⟨.ended (by rw [turn, ended]; rfl), Nat.le_refl _, ?_, ?_, ?_, rfl, ?_⟩
  · rw [List.filterMap_cons_none nothing]
    rfl
  · exact List.forall_mem_singleton.2 ⟨ahead, [], stands⟩
  · simpa [Site.walk] using stands.chain
  · exact (List.append_nil _).symm

/-- A hit ends the loop where it stands. -/
theorem follows_hit (stands : cursor.Stands head terminal ahead ((node, next) :: below))
    {value : Value} (hit : Site.Probed world receiver node (.hit value)) :
    cursor.Follows world receiver head terminal (ahead.map Prod.fst)
      (node :: below.map Prod.fst) ⟨node :: below.map Prod.fst, [], 0, 0, .hit value⟩ [cursor]
      { cursor with counters := cursor.counters.addHit } := by
  refine ⟨.ended ?_, Nat.le_add_left .., ?_, ?_, ?_, rfl, ?_⟩
  · unfold Site.Probed at hit
    simp only [turn, stands.held, hit]
  · rw [List.filterMap_cons_some stands.node?_eq, Site.tried_of_hit hit]
    rfl
  · exact List.forall_mem_singleton.2 ⟨ahead, _, stands⟩
  · simpa using stands.chain
  · exact (List.append_nil _).symm

/-- A miss leaves the rest to the link that the node owns. -/
theorem follows_miss (stands : cursor.Stands head terminal ahead ((node, next) :: below))
    (miss : Site.Probed world receiver node .miss)
    (rest : (cursor.missed next).Follows world receiver head terminal
      ((ahead ++ [(node, next)]).map Prod.fst) (below.map Prod.fst) walked run last) :
    cursor.Follows world receiver head terminal (ahead.map Prod.fst)
      (node :: below.map Prod.fst)
      { walked with
        kept := node :: walked.kept
        events := .missed cursor.position :: walked.events
        misses := walked.misses + 1 }
      (cursor :: run) last := by
  refine ⟨.again ?_ rest.loops, Nat.succ_le_succ rest.turns, ?_, ?_, ?_, ?_, ?_⟩
  · unfold Site.Probed at miss
    simp only [turn, stands.held, miss]
  · rw [List.filterMap_cons_some stands.node?_eq, rest.tried,
      Site.tried_of_vain (Site.isVain_of_miss miss)]
  · exact List.forall_mem_cons.2 ⟨⟨ahead, _, stands⟩, rest.live⟩
  · simpa using rest.chain
  · rw [rest.counters, Cursor.missed, Counters.addPassedOver_addPassedOver]
    rfl
  · rw [rest.events, Cursor.missed, List.append_assoc]
    rfl

/-- A stale node leaves the rest to the link at which the loop stands. -/
theorem follows_stale (stands : cursor.Stands head terminal ahead ((node, next) :: below))
    (stale : Site.Probed world receiver node .stale) {links : Links}
    (pruned : cursor.links.prune cursor.link (.cached node next) = some links)
    (rest : (cursor.pruned links).Follows world receiver head terminal (ahead.map Prod.fst)
      (below.map Prod.fst) walked run last) :
    cursor.Follows world receiver head terminal (ahead.map Prod.fst)
      (node :: below.map Prod.fst)
      { walked with
        events := .pruned cursor.position :: walked.events
        prunes := walked.prunes + 1 }
      (cursor :: run) last := by
  refine ⟨.again ?_ rest.loops, Nat.succ_le_succ rest.turns, ?_, ?_, rest.chain, ?_, ?_⟩
  · unfold Site.Probed at stale
    simp only [turn, stands.held, stale, pruned]
  · rw [List.filterMap_cons_some stands.node?_eq, rest.tried,
      Site.tried_of_vain (Site.isVain_of_stale stale)]
  · exact List.forall_mem_cons.2 ⟨⟨ahead, _, stands⟩, rest.live⟩
  · rw [rest.counters, Cursor.pruned, Counters.addPassedOver_addPassedOver]
    rfl
  · rw [rest.events, Cursor.pruned, List.append_assoc]
    rfl

theorem leaves_end (stands : cursor.Stands head terminal ahead []) :
    Leaves head terminal ahead [] [] cursor (.fellOff cursor.position) where
  ends := by
    obtain ⟨last, leads, ended⟩ := stands.ends
    exact ⟨last, stands.leads.append leads, ended⟩
  sublist := .slnil
  retired := nofun
  arrives _ _ := by
    rw [List.append_nil]
    exact stands

theorem leaves_hit (stands : cursor.Stands head terminal ahead below) {value : Value} :
    Leaves head terminal ahead below below { cursor with counters := cursor.counters.addHit }
      (.hit value) where
  ends := by
    obtain ⟨last, leads, ended⟩ := stands.ends
    exact ⟨last, stands.leads.append leads, ended⟩
  sublist := .refl _
  retired _ mem gone := absurd mem gone
  arrives := nofun

theorem leaves_miss {ending : Site.Ending} {kept : List (CachedNode × LinkId)}
    (rest : Leaves head terminal (ahead ++ [(node, next)]) below kept last ending) :
    Leaves head terminal ahead ((node, next) :: below) ((node, next) :: kept) last ending where
  ends := by
    rw [List.append_cons]
    exact rest.ends
  sublist := rest.sublist.cons_cons _
  retired entry mem gone := by
    rcases List.mem_cons.1 mem with rfl | mem
    · exact absurd (List.mem_cons_self ..) gone
    · exact rest.retired entry mem fun stays => gone (List.mem_cons_of_mem _ stays)
  arrives position fell := by
    rw [List.append_cons]
    exact rest.arrives position fell

theorem leaves_stale {ending : Site.Ending} {kept : List (CachedNode × LinkId)}
    (rest : Leaves head terminal ahead below kept last ending)
    (retired : (last.links.get next).retired = true) :
    Leaves head terminal ahead ((node, next) :: below) kept last ending where
  ends := rest.ends
  sublist := rest.sublist.cons _
  retired entry mem gone := by
    rcases List.mem_cons.1 mem with rfl | mem
    · exact retired
    · exact rest.retired entry mem gone
  arrives := rest.arrives

/-- **The loop ends**, and does what the walk does. -/
theorem exists_follows (stands : cursor.Stands head terminal ahead below)
    (sane : ∀ entry ∈ below, ∃ probe, Site.Probed world receiver entry.1 probe) :
    let walked := Site.walk world receiver cursor.position (below.map Prod.fst)
    ∃ run last kept, cursor.Follows world receiver head terminal (ahead.map Prod.fst)
        (below.map Prod.fst) walked run last ∧
      kept.map Prod.fst = walked.kept ∧
      Leaves head terminal ahead below kept last walked.ending := by
  -- along the nodes below: whether the loop goes on at the next link or reads this one again, there
  -- is one less of them
  induction below generalizing cursor ahead with
  | nil => exact ⟨[cursor], cursor, [], stands.follows_end, rfl, stands.leaves_end⟩
  | cons entry below ih =>
    obtain ⟨node, next⟩ := entry
    obtain ⟨⟨probe, probed⟩, rest_sane⟩ := List.forall_mem_cons.1 sane
    have found : node.guard.probe world receiver node.location = .ok probe := probed
    rw [List.map_cons, Site.walk]
    cases probe with
    | hit value =>
      simp only [found]
      exact ⟨_, _, _, stands.follows_hit probed, rfl, stands.leaves_hit⟩
    | miss =>
      simp only [found]
      obtain ⟨run, last, kept, rest, nodes, left⟩ := ih stands.after_miss rest_sane
      exact ⟨_, last, (node, next) :: kept, stands.follows_miss probed rest,
        congrArg (node :: ·) nodes, leaves_miss left⟩
    | stale =>
      simp only [found]
      obtain ⟨links, pruned, retired, stays⟩ := stands.after_stale
      obtain ⟨run, last, kept, rest, nodes, left⟩ := ih stays rest_sane
      have frozen : last.links.get next = links.get next :=
        (rest.loops.keeps (next.index + 1)).retired next (Nat.lt_succ_self _) retired
      exact ⟨_, last, kept, stands.follows_stale probed pruned rest, nodes,
        leaves_stale left (frozen ▸ retired)⟩

end Cursor.Stands

end Loop

end InlineCache
