import InlineCache.Site
import Mathlib.Logic.Function.Basic

/-!
# Chains of links

The cached nodes of a site can be kept in a chain of links: the head of the chain is a link, every
cached node owns one, and the last of them holds the terminal. A node is unlinked from the link that
holds it. The link that the node owns is retired then, and what that one held moves up; nothing else
changes in memory, so the ways to the link and on from the node behind are still there. A node is
added, or the chain made generic, by replacing the terminal in the link that holds it.

A write names what it expects to find in a link, and is refused if something else is there, or if
the link is retired. So a link that is retired is never written again, and one that holds the
generic end always will.

## Main definitions

* `LinkId`, `ChainNode`, `Link`, `Links`: a chain in memory
* `Links.retire`, `Links.prune`, `Links.replace`: how a node is unlinked, and how a chain grows
* `Links.Keeps`: what no write undoes
* `Links.Leads`, `Links.Ends`, `Links.Chain`: the way from a link to another, the way to the end,
  and the nodes of a chain

## Main results

* `exists_prune`, `replace_of_held`: what becomes of the links if a node is unlinked, or replaced
* `keeps_prune`, `keeps_replace`: a write keeps retired links, and generic ends
* `Leads.congr`, `Ends.moveUp`: what becomes of the ways to a link and on from it
* `chain_ofNodes`: every list of nodes can be laid out as a chain
-/

namespace InlineCache

/-! ## Links -/

/-- The identity of a link: the head of a chain, or the link that a cached node owns. -/
@[ext]
structure LinkId where
  /-- Position in the order of creation. -/
  index : Nat
  deriving DecidableEq

/-- What a link holds. -/
inductive ChainNode where
  /-- A cached node, and the link that it owns. No other node owns that link, so two of these are
  the same node if they are equal. -/
  | cached (node : CachedNode) (next : LinkId)
  /-- How the chain ends. -/
  | terminal (terminal : Terminal)
  deriving DecidableEq

/-- A link. -/
structure Link where
  /-- What it holds. -/
  node : ChainNode
  /-- The node that owns the link was unlinked. -/
  retired : Bool
  deriving DecidableEq

/-- All links, those of nodes that were unlinked included. -/
structure Links where
  /-- The link of an identity. -/
  get : LinkId → Link

namespace Links

/-- Replaces a link. -/
def set (links : Links) (id : LinkId) (link : Link) : Links := ⟨Function.update links.get id link⟩

/-- Freezes a link, and tells what it holds. -/
def retire (links : Links) (id : LinkId) : ChainNode × Links :=
  let link := links.get id
  (link.node, links.set id { link with retired := true })

/-- Unlinks the cached node `expected` from the link that holds it: the link that the node owns is
retired, and what was behind it moves up. A link that is retired, or that holds another node by
now, refuses. -/
def prune (links : Links) (id : LinkId) (expected : ChainNode) : Option Links :=
  match expected with
  | .terminal _ => none
  | .cached _ next =>
    if (links.get id).retired ∨ (links.get id).node ≠ expected then none
    else
      let (successor, links) := links.retire next
      some (links.set id { links.get id with node := successor })

/-- Puts something in the place of what is expected in a link. A link that is retired, that holds
something else by now, or that holds the generic end, refuses. -/
def replace (links : Links) (id : LinkId) (expected node : ChainNode) : Option Links :=
  if (links.get id).retired ∨ (links.get id).node ≠ expected ∨
      (links.get id).node = .terminal .generic then none
  else some (links.set id { links.get id with node })

/-- From the link `id` one comes by these nodes, each with the link that it owns, to the link
`last`. No link on the way is retired. -/
def Leads (links : Links) : LinkId → List (CachedNode × LinkId) → LinkId → Prop
  | id, [], last => id = last
  | id, (node, next) :: rest, last =>
    links.get id = ⟨.cached node next, false⟩ ∧ links.Leads next rest last

/-- From the link `id` one comes by these nodes to the end. -/
def Ends (links : Links) (terminal : Terminal) (id : LinkId)
    (nodes : List (CachedNode × LinkId)) : Prop :=
  ∃ last, links.Leads id nodes last ∧ links.get last = ⟨.terminal terminal, false⟩

/-- The links of a way from `id`, the first one included. -/
def along (id : LinkId) (nodes : List (CachedNode × LinkId)) : List LinkId :=
  id :: nodes.map Prod.snd

/-- **The chain of the head** has these nodes, and ends like this. No link occurs in it twice. -/
def Chain (links : Links) (head : LinkId) (terminal : Terminal) (nodes : List CachedNode) : Prop :=
  ∃ entries, entries.map Prod.fst = nodes ∧ links.Ends terminal head entries ∧
    (along head entries).Nodup

variable {links later : Links} {terminal : Terminal} {id last head next far : LinkId}
  {node : CachedNode} {front back rest entries : List (CachedNode × LinkId)}

@[simp] theorem get_set_self (links : Links) (id : LinkId) (link : Link) :
    (links.set id link).get id = link :=
  Function.update_self ..

theorem get_set_of_ne (other : far ≠ id) (links : Links) (link : Link) :
    (links.set id link).get far = links.get far :=
  Function.update_of_ne other ..

/-- **What becomes of the links if a node is unlinked**: the link that held it holds what was behind
it, and the one that the node owned is retired. No other link has changed. -/
theorem exists_prune (held : links.get id = ⟨.cached node next, false⟩) (other : next ≠ id) :
    ∃ later, links.prune id (.cached node next) = some later ∧
      later.get id = ⟨(links.get next).node, false⟩ ∧ (later.get next).retired = true ∧
      ∀ far, far ≠ id → far ≠ next → later.get far = links.get far := by
  have pruned : links.prune id (.cached node next) =
      some ((links.retire next).2.set id
        { (links.retire next).2.get id with node := (links.get next).node }) := by
    simp [prune, held, retire]
  refine ⟨_, pruned, ?_, ?_, ?_⟩
  · rw [get_set_self, retire, get_set_of_ne other.symm, held]
  · rw [get_set_of_ne other, retire, get_set_self]
  · intro far ne ne'
    rw [get_set_of_ne ne, retire, get_set_of_ne ne']

/-- A terminal that is not generic is replaced by what is asked for. -/
theorem replace_of_held {content : ChainNode}
    (held : links.get id = ⟨.terminal .uninitialized, false⟩) :
    links.replace id (.terminal .uninitialized) content = some (links.set id ⟨content, false⟩) := by
  simp [replace, held]

theorem replace_of_refused {expected content : ChainNode}
    (refused : (links.get id).retired = true ∨ (links.get id).node ≠ expected ∨
      (links.get id).node = .terminal .generic) :
    links.replace id expected content = none :=
  if_pos refused

/-! ## What no write undoes -/

/-- Of the links created so far, the retired ones are as they were, and those that held the generic
end hold it still. -/
structure Keeps (created : Nat) (links later : Links) : Prop where
  retired : ∀ id : LinkId, id.index < created → (links.get id).retired = true →
    later.get id = links.get id
  generic : ∀ id : LinkId, id.index < created → (links.get id).node = .terminal .generic →
    (later.get id).node = .terminal .generic

theorem Keeps.refl (created : Nat) (links : Links) : Keeps created links links :=
  ⟨fun _ _ _ => rfl, fun _ _ generic => generic⟩

theorem Keeps.trans {created more : Nat} {latest : Links} (keeps : Keeps created links later)
    (keeps' : Keeps more later latest) (grown : created ≤ more) : Keeps created links latest where
  retired id old retired := by
    have first := keeps.retired id old retired
    exact (keeps'.retired id (Nat.lt_of_lt_of_le old grown) (first ▸ retired)).trans first
  generic id old generic :=
    keeps'.generic id (Nat.lt_of_lt_of_le old grown) (keeps.generic id old generic)

/-- A write to a link keeps what was there to be kept, unless the link is retired or holds the
generic end. -/
theorem keeps_set {created : Nat} {link : Link}
    (free : id.index < created → (links.get id).retired = false ∧
      (links.get id).node ≠ .terminal .generic) : Keeps created links (links.set id link) where
  retired far old retired := by
    refine get_set_of_ne ?_ links link
    rintro rfl
    cases retired.symm.trans (free old).1
  generic far old generic := by
    rw [get_set_of_ne ?_ links link]
    · exact generic
    · rintro rfl
      exact (free old).2 generic

/-- **Replacing** keeps retired links, and generic ends. -/
theorem keeps_replace {created : Nat} {expected content : ChainNode}
    (replaced : links.replace id expected content = some later) : Keeps created links later := by
  unfold replace at replaced
  split at replaced
  · cases replaced
  · next free =>
    obtain ⟨live, free⟩ := not_or.1 free
    cases replaced
    exact keeps_set fun _ => ⟨Bool.eq_false_iff.2 live, fun generic => free (.inr generic)⟩

theorem keeps_retire (created : Nat) (links : Links) (id : LinkId) :
    Keeps created links (links.retire id).2 := by
  constructor
  · intro far old retired
    by_cases same : far = id
    · subst same
      rw [retire, get_set_self, ← retired]
    · exact get_set_of_ne same _ _
  · intro far old generic
    by_cases same : far = id
    · subst same
      rw [retire, get_set_self]
      exact generic
    · rw [retire, get_set_of_ne same]
      exact generic

/-- **Unlinking** keeps retired links, and generic ends. -/
theorem keeps_prune {created : Nat} {expected : ChainNode}
    (pruned : links.prune id expected = some later) : Keeps created links later := by
  unfold prune at pruned
  split at pruned
  · cases pruned
  · next node next =>
    split at pruned
    · cases pruned
    · next free =>
      obtain ⟨live, holds⟩ := not_or.1 free
      cases pruned
      constructor
      · intro far old retired
        have ne : far ≠ id := fun same => live (same ▸ retired)
        rw [get_set_of_ne ne]
        exact (keeps_retire created links next).retired far old retired
      · intro far old generic
        have ne : far ≠ id := by
          rintro rfl
          rw [generic] at holds
          exact holds nofun
        rw [get_set_of_ne ne]
        exact (keeps_retire created links next).generic far old generic

/-! ## Ways along links -/

theorem along_append (id : LinkId) (front back : List (CachedNode × LinkId)) :
    along id (front ++ back) = along id front ++ back.map Prod.snd := by
  simp [along]

/-- The links that are read on a way: all but the one at which it arrives. -/
theorem dropLast_along_cons (id : LinkId) (entry : CachedNode × LinkId)
    (rest : List (CachedNode × LinkId)) :
    (along id (entry :: rest)).dropLast = id :: (along entry.2 rest).dropLast := rfl

theorem Leads.along_eq (leads : links.Leads id entries last) :
    along id entries = (along id entries).dropLast ++ [last] := by
  induction entries generalizing id with
  | nil =>
    cases leads
    rfl
  | cons entry rest ih =>
    rw [dropLast_along_cons, List.cons_append, ← ih leads.2]
    rfl

/-- A way does not change unless a link does that is read on it. -/
theorem Leads.congr (leads : links.Leads id entries last)
    (same : ∀ far ∈ (along id entries).dropLast, later.get far = links.get far) :
    later.Leads id entries last := by
  induction entries generalizing id with
  | nil => exact leads
  | cons entry rest ih =>
    rw [dropLast_along_cons] at same
    obtain ⟨here, others⟩ := List.forall_mem_cons.1 same
    exact ⟨here.trans leads.1, ih leads.2 others⟩

theorem Leads.snoc (leads : links.Leads id front last)
    (held : links.get last = ⟨.cached node next, false⟩) :
    links.Leads id (front ++ [(node, next)]) next := by
  induction front generalizing id with
  | nil =>
    cases leads
    exact ⟨held, rfl⟩
  | cons entry rest ih => exact ⟨leads.1, ih leads.2⟩

theorem Leads.append {mid : LinkId} (leads : links.Leads id front mid)
    (leads' : links.Leads mid back last) : links.Leads id (front ++ back) last := by
  induction front generalizing id with
  | nil =>
    cases leads
    exact leads'
  | cons entry rest ih => exact ⟨leads.1, ih leads.2⟩

/-- A way does not change if the link changes at which it arrives. -/
theorem Leads.set (leads : links.Leads id entries last) (nodup : (along id entries).Nodup)
    (link : Link) : (links.set last link).Leads id entries last := by
  rw [leads.along_eq] at nodup
  refine leads.congr fun far mem => get_set_of_ne ?_ links link
  exact (List.nodup_append.1 nodup).2.2 far mem last (List.mem_singleton_self _)

theorem Leads.mem_along (leads : links.Leads id entries last) : last ∈ along id entries := by
  rw [leads.along_eq]
  exact List.mem_append_right _ (List.mem_singleton_self _)

/-- The node behind moves up: the way to the end starts at a link that holds what the next one
held, and is the same otherwise. -/
theorem Ends.moveUp (ends : links.Ends terminal next rest)
    (moved : later.get id = ⟨(links.get next).node, false⟩)
    (same : ∀ far ∈ rest.map Prod.snd, later.get far = links.get far) :
    later.Ends terminal id rest := by
  obtain ⟨last, leads, ended⟩ := ends
  cases rest with
  | nil =>
    cases leads
    rw [ended] at moved
    exact ⟨id, rfl, moved⟩
  | cons entry rest =>
    obtain ⟨held, leads⟩ := leads
    rw [held] at moved
    refine ⟨last, ⟨moved, leads.congr ?_⟩, (same last leads.mem_along).trans ended⟩
    intro far mem
    exact same far (List.dropLast_subset _ mem)

/-! ## A chain laid out in a row -/

/-- The nodes with the links that they own, the first one owning the link after `index`. -/
def row (index : Nat) : List CachedNode → List (CachedNode × LinkId)
  | [] => []
  | node :: rest => (node, ⟨index + 1⟩) :: row (index + 1) rest

/-- Links that hold the nodes in their order, and then the terminal. -/
def ofNodes (nodes : List CachedNode) (terminal : Terminal) : Links where
  get id :=
    match nodes[id.index]? with
    | some node => ⟨.cached node ⟨id.index + 1⟩, false⟩
    | none => ⟨.terminal terminal, false⟩

theorem map_fst_row (index : Nat) (nodes : List CachedNode) :
    (row index nodes).map Prod.fst = nodes := by
  induction nodes generalizing index with
  | nil => rfl
  | cons node rest ih => rw [row, List.map_cons, ih]

theorem lt_of_mem_row {index : Nat} {nodes : List CachedNode}
    (mem : id ∈ (row index nodes).map Prod.snd) : index < id.index := by
  induction nodes generalizing index with
  | nil => cases mem
  | cons node rest ih =>
    rcases List.mem_cons.1 mem with rfl | mem
    · exact Nat.lt_succ_self _
    · exact Nat.lt_of_succ_lt (ih mem)

theorem le_of_mem_row {index : Nat} {nodes : List CachedNode}
    (mem : id ∈ (row index nodes).map Prod.snd) : id.index ≤ index + nodes.length := by
  induction nodes generalizing index with
  | nil => cases mem
  | cons node rest ih =>
    rw [List.length_cons]
    rcases List.mem_cons.1 mem with rfl | mem
    · exact Nat.add_le_add_left (Nat.succ_pos _) index
    · have bound := ih mem
      omega

theorem nodup_row (index : Nat) (nodes : List CachedNode) :
    (along ⟨index⟩ (row index nodes)).Nodup := by
  induction nodes generalizing index with
  | nil => exact List.pairwise_singleton _ _
  | cons node rest ih =>
    have fresh : (⟨index⟩ : LinkId) ∉ (row index (node :: rest)).map Prod.snd :=
      fun mem => Nat.lt_irrefl _ (lt_of_mem_row mem)
    exact List.nodup_cons.2 ⟨fresh, ih (index + 1)⟩

theorem ends_ofNodes (before nodes : List CachedNode) (terminal : Terminal) :
    (ofNodes (before ++ nodes) terminal).Ends terminal ⟨before.length⟩
      (row before.length nodes) := by
  -- the way starts at the link behind the nodes before
  induction nodes generalizing before with
  | nil => exact ⟨_, rfl, by simp [ofNodes]⟩
  | cons node rest ih =>
    have held : (ofNodes (before ++ node :: rest) terminal).get ⟨before.length⟩ =
        ⟨.cached node ⟨before.length + 1⟩, false⟩ := by simp [ofNodes]
    have behind := ih (before ++ [node])
    rw [List.append_assoc, List.singleton_append, List.length_append, List.length_singleton]
      at behind
    obtain ⟨last, leads, ended⟩ := behind
    exact ⟨last, ⟨held, leads⟩, ended⟩

/-- **Every list of nodes can be laid out as a chain.** -/
theorem chain_ofNodes (nodes : List CachedNode) (terminal : Terminal) :
    (ofNodes nodes terminal).Chain ⟨0⟩ terminal nodes :=
  ⟨row 0 nodes, map_fst_row 0 nodes, ends_ofNodes [] nodes terminal, nodup_row 0 nodes⟩

end Links

end InlineCache
