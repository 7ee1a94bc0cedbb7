import InlineCache.Proofs.Session.Accounts
import InlineCache.Proofs.Session.Chains
import InlineCache.Proofs.Session.Outcomes
import InlineCache.Proofs.Session.Tokens

/-!
# Nodes are kept while they are of use

A read that a node answers, or that adds one, leaves the site with a node whose guard is that of the
present resolution. The guard knows the receiver by its layout or by its class, and besides hangs on
the tokens of the classes that were walked, and on nothing else. A walk drops no node with valid
tokens, whoever it is for; a site that is full or generic keeps the nodes that it has; and no other
node can pass in place of this one and say anything else. So the next read from the receiver is a
hit, as long as its layout and the tokens are what they were.

## Main definitions

* `World.walked`: the classes of a receiver's walk, up to the one that defines the name
* `CachedNode.Current`: the guard of the node is that of the present resolution
* `Counters.Served`, `Counters.HitOnce`: what is counted for a read that makes use of a node

## Main results

* `Guard.tokens_eq_of_resolve`: the tokens of a guard are those of the classes walked
* `Site.Backed.exists_current_of_served`: a read leaves a node of the present resolution behind
* `Site.Backed.hitOnce_of_pass`: a read for which a node passes is a hit
* `Reachable.mem_run`: a node stays while its tokens are valid
* `entries_retained`: the next read is a hit
-/

namespace InlineCache

/-- The object, if it is a class. -/
def ObjectId.class? : ObjectId → Option ClassId
  | .cls c => some c
  | _ => none

namespace World

variable {world : World} {limit : Nat} {receiver : ObjectId} {name : String} {c : ClassId}

/-- The classes of the walk to an attribute that the receiver inherits: the receiver itself, if it
is a class, and the classes visited, up to the one that defines the name. -/
def walked (world : World) (limit : Nat) (receiver : ObjectId) (name : String) : List ClassId :=
  match world.resolve limit receiver name with
  | .ok ⟨_, _, _, .inherited _ hops⟩ => receiver.class?.toList ++ hops.map Hop.cls
  | _ => []

theorem hasClass_of_mem_walked (sound : world.Sound) (hr : world.HasObject receiver)
    (mem : c ∈ world.walked limit receiver name) : world.HasClass c := by
  cases resolved : world.resolve limit receiver name with
  | error e => simp [walked, resolved] at mem
  | ok resolution =>
    rcases resolve_cases resolved with
      ⟨location, value, -, rfl⟩ | ⟨check, first, found, -, enters, visited, rfl⟩
    · simp [walked, resolved] at mem
    · simp only [walked, resolved, List.mem_append, List.mem_map] at mem
      rcases mem with itself | ⟨hop, mem, rfl⟩
      · rcases receiver with i | d | m <;> simp [ObjectId.class?] at itself
        exact itself ▸ hr
      · exact (way_of_walk sound (hasClass_of_entry sound hr enters) visited).created hop mem

end World

namespace Guard

variable {world : World} {limit : Nat} {receiver : ObjectId} {name : String}
  {resolution : Resolution} {guard : Guard}

/-- The guard does not depend on the value. -/
theorem ofResolution_value (resolution : Resolution) (value : Value) :
    ofResolution { resolution with value } = ofResolution resolution := rfl

theorem tokens_of_inherited {check : ReceiverCheck} {hops : List Hop} {location : Location}
    {value : Value}
    (guarded : ofResolution ⟨hops.length, location, value, .inherited check hops⟩ = .ok guard) :
    guard.tokens = check.tokens ++ hops.map Hop.assumption := by
  -- no class visited has no guard, one has a class guard, and more have a chain guard
  rcases hops with _ | ⟨hop, _ | ⟨next, rest⟩⟩
  · cases guarded
  · cases guarded
    rfl
  · cases guarded
    rfl

/-- **The tokens of a guard** are those that the classes walked hold at present. -/
theorem tokens_eq_of_resolve (resolved : world.resolve limit receiver name = .ok resolution)
    (guarded : ofResolution resolution = .ok guard) :
    guard.tokens = (world.walked limit receiver name).map world.currentAssumption := by
  rcases World.resolve_cases resolved with
    ⟨location, value, -, rfl⟩ | ⟨check, first, found, -, enters, visited, rfl⟩
  · cases guarded
    simp [World.walked, resolved, tokens]
  · have receiver_token : check.tokens = receiver.class?.toList.map world.currentAssumption := by
      rcases receiver with i | c | m <;> cases enters <;> rfl
    have hop_tokens : found.hops.map Hop.assumption =
        (found.hops.map Hop.cls).map world.currentAssumption := by
      obtain ⟨classes, -, -⟩ := World.walk_hops visited
      rw [classes, List.map_map, List.map_map, List.map_map]
      rfl
    rw [tokens_of_inherited guarded, receiver_token, hop_tokens, World.walked, resolved,
      List.map_append]

end Guard

/-- A receiver of the same layout has the key still. -/
theorem ReceiverKey.Matches.of_layout {world later : World} {receiver : ObjectId}
    {key : ReceiverKey} (known : key.Matches world receiver) (ext : world.Extends later)
    (hr : world.HasObject receiver)
    (same : (later.layout receiver).same (world.layout receiver) = true) :
    key.Matches later receiver := by
  have serial : (later.layout receiver).serial = (world.layout receiver).serial := beq_iff_eq.1 same
  cases key with
  | layout captured => exact matches_layout.2 (serial.trans (matches_layout.1 known))
  | inst c captured =>
    rcases receiver with i | d | m
    · obtain ⟨cls, layout⟩ := known
      exact ⟨(ext.classOf i hr).trans cls, serial.trans layout⟩
    · exact known
    · exact known
  | cls c => cases receiver <;> exact known

/-! ## The node of the present resolution -/

/-- A read was counted as a hit or as a specialization. -/
def Counters.Served (before after : Counters) : Prop :=
  after.hits = before.hits + 1 ∨ after.specializations = before.specializations + 1

/-- A read was counted as a hit, and as nothing else. -/
structure Counters.HitOnce (before after : Counters) : Prop where
  hits : after.hits = before.hits + 1
  specializations : after.specializations = before.specializations
  genericReads : after.genericReads = before.genericReads

namespace CachedNode

variable {world : World} {limit : Nat} {receiver : ObjectId} {name : String} {node : CachedNode}

/-- The guard of the node is that of the present resolution. -/
def Current (world : World) (limit : Nat) (receiver : ObjectId) (name : String)
    (node : CachedNode) : Prop :=
  ∃ resolution, world.resolve limit receiver name = .ok resolution ∧
    Guard.ofResolution resolution = .ok node.guard

/-- A node that hits is of the present resolution, whoever it was made for. -/
theorem Backed.current_of_hit (backed : node.Backed world limit name) (sound : world.Sound)
    (hr : world.HasObject receiver) {value : Value}
    (hit : Site.Probed world receiver node (.hit value)) :
    node.Current world limit receiver name := by
  obtain ⟨earlier, first, resolution, before, ext, created, resolved, guarded, slot⟩ := backed
  rw [Site.Probed, slot] at hit
  have again := resolve_eq_of_probe_hit before sound ext created hr resolved guarded hit
  exact ⟨_, again, (Guard.ofResolution_value resolution value).trans guarded⟩

theorem Current.key_matches (current : node.Current world limit receiver name)
    (sound : world.Sound) (hr : world.HasObject receiver) :
    node.guard.key.Matches world receiver := by
  obtain ⟨resolution, resolved, guarded⟩ := current
  exact (Guard.recalls_of_resolve sound hr resolved guarded).key_matches

theorem Current.tokens_eq (current : node.Current world limit receiver name) :
    node.guard.tokens = (world.walked limit receiver name).map world.currentAssumption := by
  obtain ⟨resolution, resolved, guarded⟩ := current
  exact Guard.tokens_eq_of_resolve resolved guarded

end CachedNode

namespace Site

variable {world : World} {receiver : ObjectId} {site : Site} {node : CachedNode}

/-- A walk keeps every node whose tokens are valid. -/
theorem Backed.mem_passed (backed : site.Backed world) (sound : world.Sound)
    (hr : world.HasObject receiver) (mem : node ∈ site.nodes)
    (valid : ∀ a ∈ node.guard.tokens, world.holds a = true) :
    node ∈ (site.passed world receiver).nodes := by
  rcases mem_walk_kept_or_stale 0 mem with kept | stale
  · exact kept
  · have verdict := (backed node mem).outcome_of_probed sound hr stale
    obtain ⟨-, a, captured, retired⟩ := Guard.verdict_eq_stale_iff.1 verdict.symm
    cases retired.symm.trans (valid a captured)

/-- So does a read. -/
theorem Backed.mem_readObject (backed : site.Backed world) (sound : world.Sound)
    (hr : world.HasObject receiver) (mem : node ∈ site.nodes)
    (valid : ∀ a ∈ node.guard.tokens, world.holds a = true) :
    node ∈ (site.readObject world receiver).site.nodes := by
  obtain ⟨appended, nodes, -⟩ := nodes_readObject world receiver site
  rw [nodes]
  exact List.mem_append_left _ (backed.mem_passed sound hr mem valid)

/-- **A read that a node answers, or that adds one**, leaves a node of the present resolution. -/
theorem Backed.exists_current_of_served (backed : site.Backed world) (sound : world.Sound)
    (hr : world.HasObject receiver)
    (served : site.counters.Served (site.readObject world receiver).site.counters) :
    ∃ node ∈ (site.readObject world receiver).site.nodes,
      node.Current world site.limits.hierarchy receiver site.name := by
  cases readObject_cases world receiver site with
  | hit value ended eq =>
    rcases walk_stops world receiver 0 site.nodes with
      ⟨position, fell⟩ | ⟨node, mem, ⟨found, hit, -⟩ | ⟨error, -, failed⟩⟩
    · cases ended.symm.trans fell
    · have verdict := (backed node mem).outcome_of_probed sound hr hit
      obtain ⟨-, valid⟩ := Guard.verdict_eq_pass_iff.1 verdict.symm
      refine ⟨node, backed.mem_readObject sound hr mem valid, ?_⟩
      exact CachedNode.Backed.current_of_hit (backed node mem) sound hr hit
    · cases ended.symm.trans failed
  | failed error ended eq => exact absurd ended (backed.ending_ne_failed receiver error)
  | generic _ _ eq | full _ _ _ eq | unresolved _ _ _ _ _ eq =>
    rw [eq] at served
    rcases served with more | more
    · exact absurd more.symm (Nat.succ_ne_self _)
    · exact absurd more.symm (Nat.succ_ne_self _)
  | added fell was room resolution guard resolved guarded eq =>
    rw [eq]
    exact ⟨_, List.mem_append_right _ (List.mem_singleton_self _), resolution, resolved, guarded⟩

/-- **A read for which a node passes** is a hit. -/
theorem Backed.hitOnce_of_pass (backed : site.Backed world) (sound : world.Sound)
    (hr : world.HasObject receiver) (mem : node ∈ site.nodes)
    (pass : node.guard.verdict world receiver = .pass) :
    site.counters.HitOnce (site.readObject world receiver).site.counters := by
  have stops : ¬ site.FallsOff world receiver := by
    rw [backed.fallsOff_iff sound hr]
    intro none
    exact none node mem ((backed node mem).check_iff.2 pass)
  cases readObject_cases world receiver site with
  | hit value ended eq =>
    rw [eq]
    exact ⟨rfl, rfl, rfl⟩
  | failed error ended eq => exact absurd ended (backed.ending_ne_failed receiver error)
  | generic fell | full fell | unresolved fell | added fell => exact absurd fell stops

end Site

/-! ## Histories -/

namespace Session

variable {session : Session} {history : List Action} {id : SiteId} {action : Action}
  {receiver : ObjectId} {node : CachedNode}

/-- A node whose tokens are valid at present is there after the action still. -/
theorem Reachable.mem_after (reached : session.Reachable) (admitted : session.Admits action)
    (created : session.HasSite id) (mem : node ∈ (session.site id).nodes)
    (valid : ∀ a ∈ node.guard.tokens, session.world.holds a = true) :
    node ∈ ((session.after action).site id).nodes := by
  cases reads : session.receiverAt id action with
  | none =>
    rw [Session.site_after_of_idle created reads]
    exact mem
  | some receiver =>
    rw [Session.site_after_of_reads created reads]
    have there := hasObject_of_receiverAt admitted reads
    exact (reached.backed id).mem_readObject reached.sound there mem valid

/-- **A node whose tokens are valid after a history** is there still. -/
theorem Reachable.mem_run (reached : session.Reachable) (admitted : session.AdmitsAll history)
    (created : session.HasSite id) (mem : node ∈ (session.site id).nodes)
    (valid : ∀ a ∈ node.guard.tokens, (session.run history).world.holds a = true) :
    node ∈ ((session.run history).site id).nodes := by
  induction history generalizing session with
  | nil => exact mem
  | cons action rest ih =>
    -- tokens are retired for good, so one that is valid in the end was valid all along
    have before : ∀ a ∈ node.guard.tokens, session.world.holds a = true := by
      intro a captured
      have minted := CachedNode.Backed.minted (reached.backed id node mem) a captured
      exact (reached.extends_run admitted).retired a minted (valid a captured)
    have stays := reached.mem_after admitted.1 created mem before
    exact ih (reached.after admitted.1) admitted.2 (hasSite_after created action) stays valid

/-- A read that is counted as a hit or as a specialization leaves a node of the present
resolution. -/
theorem Reachable.exists_current_of_served (reached : session.Reachable)
    (admitted : session.Admits action) (reads : session.receiverAt id action = some receiver)
    (served : (session.site id).counters.Served ((session.after action).site id).counters) :
    let site := (session.after action).site id
    ∃ node ∈ site.nodes,
      node.Current (session.after action).world site.limits.hierarchy receiver site.name := by
  have there := hasObject_of_receiverAt admitted reads
  have backed := reached.backed_located admitted id
  rw [← counters_located session action id, reached.site_after_of_reads admitted reads] at served
  dsimp only
  rw [world_after_of_reads reads, reached.site_after_of_reads admitted reads,
    Site.limits_readObject, Site.name_readObject]
  exact backed.exists_current_of_served reached.sound there served

/-- **A node answers** after any history that leaves its tokens valid, if it knows the receiver. -/
theorem Reachable.hitOnce_of_kept (reached : session.Reachable)
    (admitted : session.AdmitsAll history) (created : session.HasSite id)
    (mem : node ∈ (session.site id).nodes)
    (known : node.guard.key.Matches (session.run history).world receiver)
    (valid : ∀ a ∈ node.guard.tokens, (session.run history).world.holds a = true)
    (again : (session.run history).Admits action)
    (reads : (session.run history).receiverAt id action = some receiver) :
    Counters.HitOnce ((session.run history).site id).counters
      (((session.run history).after action).site id).counters := by
  have reached' := reached.run admitted
  have there := hasObject_of_receiverAt again reads
  have kept := reached.mem_run admitted created mem valid
  have pass := Guard.verdict_eq_pass_iff.2 ⟨known, valid⟩
  rw [Session.site_after_of_reads (hasSite_run created history) reads]
  exact (reached'.backed id).hitOnce_of_pass reached'.sound there kept pass

/-- **Nodes are kept while they are of use.** A site is read from a receiver, and the read is a hit
or a specialization. Whatever happens next, at this site or elsewhere, the next read from the
receiver is a hit if the receiver has the same layout then, none of the classes of its walk has got
another layout or another superclass since, and no client ever invalidated the token of one. -/
theorem entries_retained {first second : List Action}
    (admitted : empty.AdmitsAll (first ++ action :: second))
    (reads : (empty.run first).receiverAt id action = some receiver) :
    let before := empty.run first
    let met := before.after action
    let later := met.run second
    let site := met.site id
    let walked := met.world.walked site.limits.hierarchy receiver site.name
    (before.site id).counters.Served site.counters →
    (later.world.layout receiver).same (met.world.layout receiver) = true →
    (∀ c ∈ walked, ¬ met.RenewedIn c second) →
    (∀ c ∈ walked, .invalidate (met.world.currentAssumption c) ∉ first ++ action :: second) →
    ∀ again, later.Admits again → later.receiverAt id again = some receiver →
      (later.site id).counters.HitOnce ((later.after again).site id).counters := by
  intro before met later site walked served same kept spared again admitted' reads'
  obtain ⟨earlier, now, after⟩ := admitsAll_append.1 admitted
  have reached : before.Reachable := reachable_empty.run earlier
  have reached' : met.Reachable := reached.after now
  have unmoved : met.world = before.world := world_after_of_reads reads
  have there : met.world.HasObject receiver := unmoved ▸ hasObject_of_receiverAt now reads
  have created : met.HasSite id := reached.hasSite_after_of_reads now reads
  obtain ⟨node, mem, current⟩ := reached.exists_current_of_served now reads served
  have known : node.guard.key.Matches later.world receiver :=
    (current.key_matches reached'.sound there).of_layout (reached'.extends_run after) there same
  have valid : ∀ a ∈ node.guard.tokens, later.world.holds a = true := by
    intro a captured
    rw [current.tokens_eq] at captured
    obtain ⟨c, visited, rfl⟩ := List.mem_map.1 captured
    have hc := World.hasClass_of_mem_walked reached'.sound there visited
    -- spared before the read, the token was valid then; spared afterwards, it is valid still
    obtain ⟨spared_before, -, spared_after⟩ :
        .invalidate (met.world.currentAssumption c) ∉ first ∧ _ ∧
          .invalidate (met.world.currentAssumption c) ∉ second := by
      simpa only [List.mem_append, List.mem_cons, not_or] using spared c visited
    have held : met.world.holds (met.world.currentAssumption c) = true := by
      rw [unmoved] at hc spared_before ⊢
      exact (holds_current_iff earlier hc).2 spared_before
    exact (reached'.holds_run_iff after hc).2 ⟨held, kept c visited, spared_after⟩
  exact reached'.hitOnce_of_kept after created mem known valid admitted' reads'

/-- An instance inherits an attribute from the base of its class, which has another subclass too. A
site with room for two nodes is to read it. -/
def stocked : List Action :=
  [.newRegistry, .newClass ⟨0⟩ "Base" none, .newClass ⟨0⟩ "Derived" (some ⟨0⟩),
    .newClass ⟨0⟩ "Other" (some ⟨0⟩), .setAttribute ⟨0⟩ (.object (.cls ⟨0⟩)) "x" (.int 1),
    .newInstance ⟨0⟩ ⟨1⟩, .newSite "x" ⟨2, 256, Nat.two_pos, Limits.standard.hierarchy_pos⟩]

/-- The attribute gets another value. The other subclass is read, changed, and read again, which
drops its node; and the base is read, for which there is no room. -/
def bustle : List Action :=
  [.setAttribute ⟨0⟩ (.object (.cls ⟨0⟩)) "x" (.int 2), .read ⟨0⟩ (.object (.cls ⟨2⟩)),
    .setAttribute ⟨0⟩ (.object (.cls ⟨2⟩)) "y" (.int 3), .read ⟨0⟩ (.object (.cls ⟨2⟩)),
    .read ⟨0⟩ (.object (.cls ⟨0⟩))]

/-- The site has dropped a node and is generic, and its first hit is the second read of the
instance. -/
theorem entries_retained_of_bustle :
    let met := (empty.run stocked).after (.read ⟨0⟩ (.object (.inst ⟨0⟩)))
    let later := met.run bustle
    let site := met.site ⟨0⟩
    met.world.walked site.limits.hierarchy (.inst ⟨0⟩) site.name = [⟨1⟩, ⟨0⟩] ∧
      (later.site ⟨0⟩).counters.prunes = 1 ∧ (later.site ⟨0⟩).terminal = .generic ∧
      (later.site ⟨0⟩).counters.hits = 0 ∧
      ((later.after (.read ⟨0⟩ (.object (.inst ⟨0⟩)))).site ⟨0⟩).counters.hits = 1 := by
  intro met later site
  have admitted : empty.AdmitsAll (stocked ++ .read ⟨0⟩ (.object (.inst ⟨0⟩)) :: bustle) := by
    decide
  have reads : (empty.run stocked).receiverAt ⟨0⟩ (.read ⟨0⟩ (.object (.inst ⟨0⟩))) =
      some (.inst ⟨0⟩) := rfl
  have walked : met.world.walked site.limits.hierarchy (.inst ⟨0⟩) site.name = [⟨1⟩, ⟨0⟩] := by
    decide
  have reached : met.Reachable := ⟨stocked ++ [.read ⟨0⟩ (.object (.inst ⟨0⟩))], by decide, rfl⟩
  have after : met.AdmitsAll bustle := by decide
  have none : (later.site ⟨0⟩).counters.hits = 0 := by decide
  have kept : ∀ c ∈ met.world.walked site.limits.hierarchy (.inst ⟨0⟩) site.name,
      ¬ met.RenewedIn c bustle := by
    rw [walked, List.forall_mem_cons, List.forall_mem_singleton]
    constructor
    · exact ((reached.holds_run_iff after (by decide)).1 (by decide)).2.1
    · exact ((reached.holds_run_iff after (by decide)).1 (by decide)).2.1
  have spared (c : ClassId) : .invalidate (met.world.currentAssumption c) ∉
      stocked ++ .read ⟨0⟩ (.object (.inst ⟨0⟩)) :: bustle := by
    simp [stocked, bustle]
  have retained := entries_retained admitted reads (.inr (by decide)) (by decide) kept
    (fun c _ => spared c) (.read ⟨0⟩ (.object (.inst ⟨0⟩))) (by decide) (by rfl)
  refine ⟨walked, by decide, by decide, none, ?_⟩
  dsimp only [later, met] at none ⊢
  exact retained.hits.trans (congrArg (· + 1) none)

end Session

end InlineCache
