import InlineCache.Proofs.Resolution.Persistence
import InlineCache.Site
import Mathlib.Data.List.Perm.Basic

/-!
# What a read does to a site

A read walks along the nodes and, if it comes to the end, resolves the name there. What becomes of
the site is one of six cases. The walk drops the stale nodes that it passes; if there is at most one
of them, it drops at most that one. A walk that comes to the end has missed every node that it
keeps.

## Main definitions

* `AtMostOne`: no two entries of a list have the property
* `Site.Probed`, `Site.answering`: what a node finds, and the node that answers a read
* `Site.passed`: the site as a walk leaves it
* `Site.ReadCase`: the six cases of a read

## Main results

* `readObject_cases`: a read is one of the six
* `mem_walk_kept_or_stale`, `walk_kept_of_atMostOne`: a walk drops stale nodes, and at most one
* `probed_of_fellOff`, `walk_kept_of_fellOff`: what a walk to the end has found, and what it keeps
* `walk_again`, `walk_append`: a second walk, and a walk along more nodes
* `walk_hit_iff`: which node answers
-/

namespace InlineCache

/-! ## At most one entry -/

/-- No two entries of the list have the property. -/
def AtMostOne {α : Type} (p : α → Prop) (l : List α) : Prop := l.Pairwise fun a b => ¬ (p a ∧ p b)

section AtMostOne

variable {α : Type} {p q : α → Prop} {l l' : List α}

theorem atMostOne_cons {a : α} :
    AtMostOne p (a :: l) ↔ (p a → ∀ b ∈ l, ¬ p b) ∧ AtMostOne p l := by
  simp only [AtMostOne, List.pairwise_cons, not_and]
  refine and_congr_left fun _ => ⟨?_, ?_⟩
  · exact fun h pa b hb => h b hb pa
  · exact fun h b hb pa => h pa b hb

theorem AtMostOne.eq (one : AtMostOne p l) {a b : α} (ha : a ∈ l) (hb : b ∈ l) (pa : p a)
    (pb : p b) : a = b := by
  induction l with
  | nil => cases ha
  | cons c rest ih =>
    obtain ⟨head, rest_one⟩ := atMostOne_cons.1 one
    rcases List.mem_cons.1 ha with ea | ha <;> rcases List.mem_cons.1 hb with eb | hb
    · exact ea.trans eb.symm
    · exact absurd pb (head (ea ▸ pa) b hb)
    · exact absurd pa (head (eb ▸ pb) a ha)
    · exact ih rest_one ha hb

theorem AtMostOne.imp_of_mem (one : AtMostOne p l) (imp : ∀ a ∈ l, q a → p a) : AtMostOne q l :=
  List.Pairwise.imp_of_mem (fun ha hb not both => not ⟨imp _ ha both.1, imp _ hb both.2⟩) one

/-- Entries that have the property have one key, and keys occur once. -/
theorem atMostOne_of_nodup {κ : Type} {key : α → κ} (nodup : (l.map key).Nodup)
    (same : ∀ a ∈ l, ∀ b ∈ l, p a → p b → key a = key b) : AtMostOne p l := by
  refine (List.pairwise_map.1 nodup).imp_of_mem ?_
  rintro a b ha hb ne ⟨pa, pb⟩
  exact ne (same a ha b hb pa pb)

/-- The entry that is found first does not depend on the order. -/
theorem AtMostOne.find?_eq_of_perm {f : α → Bool} (one : AtMostOne (f · = true) l)
    (perm : l'.Perm l) : l'.find? f = l.find? f := by
  cases found : l'.find? f with
  | none =>
    rw [List.find?_eq_none] at found
    exact (List.find?_eq_none.2 fun a ha => found a (perm.mem_iff.2 ha)).symm
  | some a =>
    have ha := perm.mem_iff.1 (List.mem_of_find?_eq_some found)
    have fa := List.find?_some found
    cases found' : l.find? f with
    | none => exact absurd fa (List.find?_eq_none.1 found' a ha)
    | some b =>
      rw [one.eq ha (List.mem_of_find?_eq_some found') fa (List.find?_some found')]

end AtMostOne

namespace Site

variable {world : World} {receiver : ObjectId} {position : Nat} {nodes : List CachedNode}

/-! ## The walk along the nodes -/

/-- A probe of the node finds this. -/
def Probed (world : World) (receiver : ObjectId) (node : CachedNode) (probe : Probe) : Prop :=
  node.guard.probe world receiver node.location = .ok probe

/-- A walk in which no node is stale keeps them all. -/
theorem walk_kept_eq_self (none : ∀ node ∈ nodes, ¬ Probed world receiver node .stale) :
    (walk world receiver position nodes).kept = nodes := by
  induction nodes generalizing position with
  | nil => rfl
  | cons node rest ih =>
    have head := none node (List.mem_cons_self ..)
    have rest_none := fun node h => none node (List.mem_cons_of_mem _ h)
    rw [walk]
    split
    · rfl
    · exact congrArg (node :: ·) (ih rest_none)
    · next stale => exact absurd stale head
    · rfl

/-- A walk drops stale nodes only. -/
theorem mem_walk_kept_or_stale {node : CachedNode} (position : Nat) (mem : node ∈ nodes) :
    node ∈ (walk world receiver position nodes).kept ∨ Probed world receiver node .stale := by
  induction nodes generalizing position with
  | nil => cases mem
  | cons first rest ih =>
    rw [walk]
    split
    · exact .inl mem
    · rcases List.mem_cons.1 mem with rfl | mem
      · exact .inl (List.mem_cons_self ..)
      · exact (ih (position + 1) mem).imp_left (List.mem_cons_of_mem _)
    · next stale =>
      rcases List.mem_cons.1 mem with rfl | mem
      · exact .inr stale
      · exact ih position mem
    · exact .inl mem

/-- **A walk drops at most one node**, a stale one, if no two are stale. -/
theorem walk_kept_of_atMostOne (one : AtMostOne (Probed world receiver · .stale) nodes)
    (position : Nat) :
    ∃ (front : List CachedNode) (dropped : Option CachedNode) (back : List CachedNode),
      nodes = front ++ dropped.toList ++ back ∧
        (walk world receiver position nodes).kept = front ++ back ∧
        ∀ node ∈ dropped, Probed world receiver node .stale := by
  induction nodes generalizing position with
  | nil => exact ⟨[], none, [], rfl, rfl, nofun⟩
  | cons node rest ih =>
    obtain ⟨head, rest_one⟩ := atMostOne_cons.1 one
    rw [walk]
    split
    · exact ⟨[], none, node :: rest, rfl, rfl, nofun⟩
    · obtain ⟨front, dropped, back, all, kept, stale⟩ := ih rest_one (position + 1)
      refine ⟨node :: front, dropped, back, ?_, ?_, stale⟩
      · rw [all]
        rfl
      · exact congrArg (node :: ·) kept
    · next stale =>
      -- this is the one, so the rest of the walk drops nothing
      refine ⟨[], some node, rest, rfl, walk_kept_eq_self (head stale), ?_⟩
      rintro _ ⟨⟩
      exact stale
    · exact ⟨[], none, node :: rest, rfl, rfl, nofun⟩

theorem walk_kept_length (world : World) (receiver : ObjectId) (position : Nat)
    (nodes : List CachedNode) :
    (walk world receiver position nodes).kept.length +
      (walk world receiver position nodes).prunes = nodes.length := by
  induction nodes generalizing position with
  | nil => rfl
  | cons node rest ih =>
    rw [walk]
    split
    · rfl
    · have := ih (position + 1)
      simp only [List.length_cons]
      omega
    · have := ih position
      simp only [List.length_cons]
      omega
    · rfl

/-- **A walk to the end** has missed every node that it keeps, and every other one was stale. -/
theorem probed_of_fellOff {passed : Nat}
    (fell : (walk world receiver position nodes).ending = .fellOff passed) :
    (∀ node ∈ (walk world receiver position nodes).kept, Probed world receiver node .miss) ∧
      ∀ node ∈ nodes, Probed world receiver node .miss ∨ Probed world receiver node .stale := by
  induction nodes generalizing position with
  | nil => exact ⟨nofun, nofun⟩
  | cons node rest ih =>
    rw [walk] at fell ⊢
    split at fell
    · cases fell
    · next miss =>
      obtain ⟨kept, all⟩ := ih fell
      exact ⟨List.forall_mem_cons.2 ⟨miss, kept⟩, List.forall_mem_cons.2 ⟨.inl miss, all⟩⟩
    · next stale =>
      obtain ⟨kept, all⟩ := ih fell
      exact ⟨kept, List.forall_mem_cons.2 ⟨.inr stale, all⟩⟩
    · cases fell

/-- A walk to the end keeps the nodes that it has missed. -/
theorem walk_kept_of_fellOff {passed : Nat} {keep : CachedNode → Bool}
    (missed : ∀ node ∈ nodes, Probed world receiver node .miss → keep node = true)
    (stale : ∀ node ∈ nodes, Probed world receiver node .stale → keep node = false)
    (fell : (walk world receiver position nodes).ending = .fellOff passed) :
    (walk world receiver position nodes).kept = nodes.filter keep := by
  induction nodes generalizing position with
  | nil => rfl
  | cons node rest ih =>
    have rest_missed := fun other mem => missed other (List.mem_cons_of_mem _ mem)
    have rest_stale := fun other mem => stale other (List.mem_cons_of_mem _ mem)
    rw [walk] at fell ⊢
    split at fell
    · cases fell
    · next probed =>
      rw [List.filter_cons_of_pos (missed node (List.mem_cons_self ..) probed)]
      exact congrArg (node :: ·) (ih rest_missed rest_stale fell)
    · next probed =>
      rw [List.filter_cons_of_neg (Bool.eq_false_iff.1 (stale node (List.mem_cons_self ..) probed))]
      exact ih rest_missed rest_stale fell
    · cases fell

/-- **A walk along the nodes that a walk has kept** keeps all of them, and ends as that one did. -/
theorem walk_again (world : World) (receiver : ObjectId) (position : Nat)
    (nodes : List CachedNode) :
    let kept := (walk world receiver position nodes).kept
    (walk world receiver position kept).kept = kept ∧
      (walk world receiver position kept).ending = (walk world receiver position nodes).ending := by
  induction nodes generalizing position with
  | nil => exact ⟨rfl, rfl⟩
  | cons node rest ih =>
    cases probed : node.guard.probe world receiver node.location with
    | error error => simp [walk, probed]
    | ok probe =>
      cases probe with
      | hit value => simp [walk, probed]
      | miss =>
        obtain ⟨kept, ending⟩ := ih (position + 1)
        simp only [walk, probed, kept, ending, and_self]
      | stale =>
        simp only [walk, probed]
        exact ih position

/-- A walk that has come to the end of some nodes goes on with those behind them. -/
theorem walk_append {passed : Nat} (more : List CachedNode)
    (fell : (walk world receiver position nodes).ending = .fellOff passed) :
    (walk world receiver position (nodes ++ more)).kept =
        (walk world receiver position nodes).kept ++ (walk world receiver passed more).kept ∧
      (walk world receiver position (nodes ++ more)).ending =
        (walk world receiver passed more).ending := by
  induction nodes generalizing position with
  | nil =>
    cases fell
    exact ⟨rfl, rfl⟩
  | cons node rest ih =>
    rw [walk] at fell
    rw [List.cons_append, walk, walk]
    split at fell
    · cases fell
    · obtain ⟨kept, ending⟩ := ih fell
      exact ⟨congrArg (node :: ·) kept, ending⟩
    · exact ih fell
    · cases fell

/-! ## The node that answers -/

/-- The guard of the node hits. -/
def hits (world : World) (receiver : ObjectId) (node : CachedNode) : Bool :=
  match node.guard.probe world receiver node.location with
  | .ok (.hit _) => true
  | _ => false

/-- The node that answers a read from the receiver: the first one whose guard hits. -/
def answering (world : World) (receiver : ObjectId) (nodes : List CachedNode) :
    Option CachedNode :=
  nodes.find? (hits world receiver)

theorem hits_iff {node : CachedNode} :
    hits world receiver node = true ↔ ∃ value, Probed world receiver node (.hit value) := by
  unfold hits Probed
  split
  · next value hit => simp [hit]
  · next other =>
    simp only [Bool.false_eq_true, false_iff, not_exists]
    exact fun value hit => other value hit

/-- **A walk ends with the value of the node that answers.** -/
theorem walk_hit_iff (sane : ∀ node ∈ nodes, ∃ probe, Probed world receiver node probe)
    {value : Value} : (walk world receiver position nodes).ending = .hit value ↔
      ∃ node ∈ answering world receiver nodes, Probed world receiver node (.hit value) := by
  induction nodes generalizing position with
  | nil => simp [walk, answering]
  | cons node rest ih =>
    have rest_sane := fun node h => sane node (List.mem_cons_of_mem _ h)
    rw [walk, answering, List.find?_cons]
    cases hit : hits world receiver node with
    | true =>
      obtain ⟨found, probed⟩ := hits_iff.1 hit
      unfold Probed at probed
      simp [probed, Probed]
    | false =>
      obtain ⟨probe, probed⟩ := sane node (List.mem_cons_self ..)
      unfold Probed at probed
      cases probe with
      | hit found =>
        have : hits world receiver node = true := hits_iff.2 ⟨found, probed⟩
        rw [hit] at this
        cases this
      | miss =>
        simp only [probed]
        exact ih rest_sane
      | stale =>
        simp only [probed]
        exact ih rest_sane

/-! ## Reads -/

/-- The walk comes to the end of the nodes. -/
def FallsOff (world : World) (receiver : ObjectId) (site : Site) : Prop :=
  ∃ position, (walk world receiver 0 site.nodes).ending = .fellOff position

/-- The site as a walk leaves it. -/
def passed (world : World) (receiver : ObjectId) (site : Site) : Site :=
  let walked := walk world receiver 0 site.nodes
  { site with
    nodes := walked.kept
    counters := site.counters.addRead.addPassedOver walked.misses walked.prunes }

/-- What a read from an object leaves of a site. -/
inductive ReadCase (world : World) (receiver : ObjectId) (site after : Site) : Prop where
  /-- A node answers. -/
  | hit (value : Value) (ended : (walk world receiver 0 site.nodes).ending = .hit value)
    (eq : after = { site.passed world receiver with
      counters := (site.passed world receiver).counters.addHit })
  /-- A node is in a state that should have been ruled out. -/
  | failed (error : ReadError) (ended : (walk world receiver 0 site.nodes).ending = .failed error)
    (eq : after = site.passed world receiver)
  /-- The site is generic already. -/
  | generic (fell : site.FallsOff world receiver) (was : site.terminal = .generic)
    (eq : after = { site.passed world receiver with
      counters := (site.passed world receiver).counters.addGenericRead })
  /-- The site is full, and turns generic. -/
  | full (fell : site.FallsOff world receiver) (was : site.terminal = .uninitialized)
    (room : site.limits.chain ≤ (site.passed world receiver).nodes.length)
    (eq : after = { site.passed world receiver with
      terminal := .generic
      counters := (site.passed world receiver).counters.addGeneralization.addGenericRead })
  /-- There is room, but the name cannot be resolved. -/
  | unresolved (fell : site.FallsOff world receiver) (was : site.terminal = .uninitialized)
    (room : (site.passed world receiver).nodes.length < site.limits.chain) (error : ReadError)
    (refused : world.resolve site.limits.hierarchy receiver site.name = .error error)
    (eq : after = site.passed world receiver)
  /-- There is room, and the resolution is added. -/
  | added (fell : site.FallsOff world receiver) (was : site.terminal = .uninitialized)
    (room : (site.passed world receiver).nodes.length < site.limits.chain)
    (resolution : Resolution) (guard : Guard)
    (resolved : world.resolve site.limits.hierarchy receiver site.name = .ok resolution)
    (guarded : Guard.ofResolution resolution = .ok guard)
    (eq : after = { site.passed world receiver with
      nodes := (site.passed world receiver).nodes ++ [⟨guard, resolution.location⟩]
      counters := (site.passed world receiver).counters.addSpecialization })

/-- **A read from an object is one of the six cases.** -/
theorem readObject_cases (world : World) (receiver : ObjectId) (site : Site) :
    ReadCase world receiver site (site.readObject world receiver).site := by
  cases ended : (walk world receiver 0 site.nodes).ending with
  | hit value => exact .hit value ended (by simp only [readObject, ended]; rfl)
  | failed error => exact .failed error ended (by simp only [readObject, ended]; rfl)
  | fellOff position =>
    have fell : site.FallsOff world receiver := ⟨position, ended⟩
    have counted : (site.passed world receiver).nodes.length = position := by
      simpa [passed] using (walk_position ended).symm
    have after : (site.readObject world receiver).site =
        ((site.passed world receiver).readTerminal world receiver position).site := by
      simp only [readObject, ended]
      rfl
    rw [after, readTerminal]
    split
    · next was => exact .generic fell was rfl
    · next was =>
      split
      · next room => exact .full fell was (counted ▸ room) rfl
      · next room =>
        have room : (site.passed world receiver).nodes.length < site.limits.chain := by
          rw [counted]
          exact Nat.lt_of_not_le room
        rw [specialize]
        split
        · next error refused => exact .unresolved fell was room error refused rfl
        · next resolution resolved =>
          obtain ⟨guard, guarded, -⟩ := Guard.exists_ofResolution resolved
          exact .added fell was room resolution guard resolved guarded (by rw [guarded])

/-- A read leaves the name and the limits of a site alone. -/
theorem name_limits_readObject (world : World) (receiver : ObjectId) (site : Site) :
    (site.readObject world receiver).site.name = site.name ∧
      (site.readObject world receiver).site.limits = site.limits := by
  cases readObject_cases world receiver site with
  | hit _ _ eq | failed _ _ eq | generic _ _ eq | full _ _ _ eq | unresolved _ _ _ _ _ eq
  | added _ _ _ _ _ _ _ eq =>
    rw [eq]
    exact ⟨rfl, rfl⟩

theorem name_readObject (world : World) (receiver : ObjectId) (site : Site) :
    (site.readObject world receiver).site.name = site.name :=
  (name_limits_readObject world receiver site).1

theorem limits_readObject (world : World) (receiver : ObjectId) (site : Site) :
    (site.readObject world receiver).site.limits = site.limits :=
  (name_limits_readObject world receiver site).2

end Site

end InlineCache
