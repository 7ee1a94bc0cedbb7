import InlineCache.Proofs.Session.Entries

/-!
# The chain of a call site

The nodes of a site form a chain that changes slowly. A read drops at most one node, a stale one,
and then adds at most one, at the end. It adds only while the site is not generic and holds fewer
nodes than its limit, so the chain never outgrows the limit; and it turns the site generic exactly
when it comes to the end of a chain that is full. A generic site stays generic, and its chain only
loses nodes.

## Main results

* `Site.terminal_readObject_iff`, `Site.turns_iff_full`: when a read turns a site generic
* `Site.exists_step_readObject`: what a read does to the chain
* `Reachable.length_le`: the limit holds of every site of a reachable session
* `Reachable.turned_iff`, `Reachable.full_of_turned`, `Reachable.room_of_dropped`: when an action
  turns a site generic, and when it does not
* `bounded_and_generic_iff_full`: the limit, and when it makes a site generic
* `step_and_generic_forever`: the step of a chain, and what is left of a generic one
-/

namespace InlineCache

namespace Site

variable {world : World} {receiver : ObjectId} {site : Site}

/-! ## One read -/

theorem length_passed_le (world : World) (receiver : ObjectId) (site : Site) :
    (site.passed world receiver).nodes.length ≤ site.nodes.length :=
  (walk_kept_sublist ..).length_le

theorem terminal_eq_uninitialized (still : site.terminal ≠ .generic) :
    site.terminal = .uninitialized := by
  cases ended : site.terminal with
  | uninitialized => rfl
  | generic => exact absurd ended still

/-- What a read adds comes last. There was room for it, and the site is not generic, neither before
nor after. -/
theorem nodes_readObject (world : World) (receiver : ObjectId) (site : Site) :
    ∃ appended : Option CachedNode,
      (site.readObject world receiver).site.nodes =
        (site.passed world receiver).nodes ++ appended.toList ∧
      ∀ node ∈ appended, (site.passed world receiver).nodes.length < site.limits.chain ∧
        site.terminal = .uninitialized ∧
        (site.readObject world receiver).site.terminal = .uninitialized := by
  cases readObject_cases world receiver site with
  | hit value ended eq => exact ⟨none, by rw [eq]; simp, nofun⟩
  | failed error ended eq => exact ⟨none, by rw [eq]; simp, nofun⟩
  | generic fell was eq => exact ⟨none, by rw [eq]; simp, nofun⟩
  | full fell was room eq => exact ⟨none, by rw [eq]; simp, nofun⟩
  | unresolved fell was room error refused eq => exact ⟨none, by rw [eq]; simp, nofun⟩
  | added fell was room resolution guard resolved guarded eq =>
    refine ⟨some ⟨guard, resolution.location⟩, ?_, ?_⟩
    · rw [eq]
      rfl
    · intro node _
      rw [eq]
      exact ⟨room, was, was⟩

/-- **When a site is generic after a read**: it was before, or the walk comes to the end of a chain
without room. -/
theorem terminal_readObject_iff :
    (site.readObject world receiver).site.terminal = .generic ↔
      site.terminal = .generic ∨ site.FallsOff world receiver ∧
        site.limits.chain ≤ (site.passed world receiver).nodes.length := by
  have same : (site.passed world receiver).terminal = site.terminal := rfl
  cases readObject_cases world receiver site with
  | hit value ended eq =>
    rw [eq]
    simp [same, FallsOff, ended]
  | failed error ended eq =>
    rw [eq]
    simp [same, FallsOff, ended]
  | generic fell was eq =>
    rw [eq]
    simp [same, was]
  | full fell was room eq =>
    rw [eq]
    simp [fell, room]
  | unresolved fell was room error refused eq =>
    rw [eq]
    simp [same, room]
  | added fell was room resolution guard resolved guarded eq =>
    rw [eq]
    simp [same, room]

/-- A read that comes to the end with room left adds what the name resolves to. -/
theorem readObject_of_room (was : site.terminal = .uninitialized)
    (fell : site.FallsOff world receiver)
    (room : (site.passed world receiver).nodes.length < site.limits.chain)
    {resolution : Resolution}
    (resolved : world.resolve site.limits.hierarchy receiver site.name = .ok resolution) :
    ∃ guard, Guard.ofResolution resolution = .ok guard ∧
      (site.readObject world receiver).site = { site.passed world receiver with
        nodes := (site.passed world receiver).nodes ++ [⟨guard, resolution.location⟩]
        counters := (site.passed world receiver).counters.addSpecialization } := by
  obtain ⟨position, fell⟩ := fell
  cases readObject_cases world receiver site with
  | hit value ended eq => exact nomatch ended.symm.trans fell
  | failed error ended eq => exact nomatch ended.symm.trans fell
  | generic fell was' eq => exact nomatch was.symm.trans was'
  | full fell was room' eq => exact absurd room (Nat.not_lt_of_le room')
  | unresolved fell was room error refused eq => exact nomatch resolved.symm.trans refused
  | added fell was room resolution' guard resolved' guarded eq =>
    cases resolved.symm.trans resolved'
    exact ⟨guard, guarded, eq⟩

/-- A generic site stays generic, and only loses nodes. -/
theorem readObject_of_generic (was : site.terminal = .generic) (world : World)
    (receiver : ObjectId) :
    (site.readObject world receiver).site.terminal = .generic ∧
      (site.readObject world receiver).site.nodes.Sublist site.nodes := by
  refine ⟨terminal_readObject_iff.2 (.inl was), ?_⟩
  obtain ⟨appended, nodes, added⟩ := nodes_readObject world receiver site
  cases appended with
  | none =>
    rw [nodes, Option.toList_none, List.append_nil]
    exact walk_kept_sublist ..
  | some node => exact nomatch was.symm.trans (added node rfl).2.1

/-! ## The limit of a site -/

section Bound

variable (bound : site.nodes.length ≤ site.limits.chain)

include bound

/-- A read that adds a node had room for it. -/
theorem length_readObject_le (world : World) (receiver : ObjectId) :
    (site.readObject world receiver).site.nodes.length ≤ site.limits.chain := by
  have kept := (length_passed_le world receiver site).trans bound
  obtain ⟨appended, nodes, added⟩ := nodes_readObject world receiver site
  rw [nodes, List.length_append]
  cases appended with
  | none => exact kept
  | some node => exact (added node rfl).1

/-- **When a read turns a site generic**: its walk comes to the end of a full chain. -/
theorem turns_iff_full (was : site.terminal = .uninitialized) :
    (site.readObject world receiver).site.terminal = .generic ↔
      site.FallsOff world receiver ∧
        (site.passed world receiver).nodes.length = site.limits.chain := by
  have kept := (length_passed_le world receiver site).trans bound
  rw [terminal_readObject_iff, was, or_iff_right nofun]
  exact and_congr_right fun _ => ⟨kept.antisymm, Eq.ge⟩

/-- A site that turns generic is left full. -/
theorem length_of_turned (was : site.terminal = .uninitialized)
    (turned : (site.readObject world receiver).site.terminal = .generic) :
    (site.readObject world receiver).site.nodes.length = site.limits.chain := by
  have full := ((turns_iff_full bound was).1 turned).2
  obtain ⟨appended, nodes, added⟩ := nodes_readObject world receiver site
  cases appended with
  | none => rw [nodes, Option.toList_none, List.append_nil, full]
  | some node => exact nomatch turned.symm.trans (added node rfl).2.2

/-- A node that is dropped leaves room for another one. -/
theorem length_passed_lt (dropped : 0 < (walk world receiver 0 site.nodes).prunes) :
    (site.passed world receiver).nodes.length < site.limits.chain := by
  have counted : (site.passed world receiver).nodes.length +
      (walk world receiver 0 site.nodes).prunes = site.nodes.length := walk_kept_length ..
  omega

/-- So a read that drops a node does not turn the site generic. -/
theorem not_turned_of_dropped (was : site.terminal = .uninitialized)
    (dropped : 0 < (walk world receiver 0 site.nodes).prunes) :
    (site.readObject world receiver).site.terminal = .uninitialized := by
  apply terminal_eq_uninitialized
  intro turned
  exact (length_passed_lt bound dropped).ne ((turns_iff_full bound was).1 turned).2

end Bound

/-! ## The step of a chain -/

/-- **A walk drops at most one node**, which is stale. -/
theorem Distinct.exists_dropped (distinct : site.Distinct) (backed : site.Backed world)
    (sound : world.Sound) (hr : world.HasObject receiver) :
    ∃ (front : List CachedNode) (dropped : Option CachedNode) (back : List CachedNode),
      site.nodes = front ++ dropped.toList ++ back ∧
        (site.passed world receiver).nodes = front ++ back ∧
        ∀ node ∈ dropped, node.guard.verdict world receiver = .stale := by
  -- no two nodes are stale
  have one : AtMostOne (Probed world receiver · .stale) site.nodes := by
    refine (distinct.atMostOne_stale world receiver).imp_of_mem ?_
    intro node mem probed
    exact ((backed node mem).outcome_of_probed sound hr probed).symm
  obtain ⟨front, dropped, back, all, kept, stale⟩ := walk_kept_of_atMostOne one 0
  refine ⟨front, dropped, back, all, kept, ?_⟩
  intro node mem
  have mem' : node ∈ site.nodes := by
    rw [all]
    simp [Option.mem_def.1 mem]
  exact ((backed node mem').outcome_of_probed sound hr (stale node mem)).symm

/-- **What a read does to the chain**: it drops at most one node, one with an invalid token, and
then adds at most one. -/
theorem exists_step_readObject (distinct : site.Distinct) (backed : site.Backed world)
    (sound : world.Sound) (hr : world.HasObject receiver) :
    ∃ (front : List CachedNode) (removed : Option CachedNode) (back : List CachedNode)
      (appended : Option CachedNode),
      site.nodes = front ++ removed.toList ++ back ∧
        (site.readObject world receiver).site.nodes = front ++ back ++ appended.toList ∧
        (∀ node ∈ removed, ∃ a ∈ node.guard.tokens, world.holds a = false) ∧
        ∀ node ∈ appended, site.terminal = .uninitialized ∧
          (site.readObject world receiver).site.terminal = .uninitialized := by
  obtain ⟨front, removed, back, all, kept, stale⟩ := distinct.exists_dropped backed sound hr
  obtain ⟨appended, nodes, added⟩ := nodes_readObject world receiver site
  refine ⟨front, removed, back, appended, all, ?_, ?_, fun node mem => (added node mem).2⟩
  · rw [nodes, kept]
  · intro node mem
    exact (Guard.verdict_eq_stale_iff.1 (stale node mem)).2

/-! ## New sites -/

theorem Nascent.terminal_eq (nascent : site.Nascent world) : site.terminal = .uninitialized := by
  obtain ⟨name, limits, rfl | ⟨receiver, -, rfl⟩⟩ := nascent
  · rfl
  · apply terminal_eq_uninitialized
    intro turned
    obtain turned | ⟨-, full⟩ := terminal_readObject_iff.1 turned
    · cases turned
    · exact absurd limits.chain_pos (Nat.not_lt_of_le full)

theorem Nascent.exists_nodes_eq (nascent : site.Nascent world) :
    ∃ appended : Option CachedNode, site.nodes = appended.toList := by
  obtain ⟨name, limits, rfl | ⟨receiver, -, rfl⟩⟩ := nascent
  · exact ⟨none, rfl⟩
  · obtain ⟨appended, nodes, -⟩ := nodes_readObject world receiver (.new name limits)
    exact ⟨appended, nodes⟩

end Site

namespace Session

variable {session : Session} {id : SiteId} {action : Action}

/-! ## The limit -/

/-- **The limit holds** of every site of a reachable session. -/
theorem Reachable.length_le (reached : session.Reachable) (id : SiteId) :
    (session.site id).nodes.length ≤ (session.site id).limits.chain := by
  refine Reachable.site_induction
    (motive := fun _ site => site.nodes.length ≤ site.limits.chain) ?_ ?_ ?_ reached id
  · intro world name limits
    exact Nat.zero_le _
  · intro world later site _ _ bound
    exact bound
  · intro world site receiver _ _ _ bound
    rw [Site.limits_readObject]
    exact Site.length_readObject_le bound world receiver

/-- An action that does not read at a site leaves it with the terminal that it had. A site that the
action creates is not generic. -/
theorem terminal_after_of_idle (admitted : session.Admits action)
    (idle : session.HasSite id → session.receiverAt id action = none)
    (was : (session.site id).terminal = .uninitialized) :
    ((session.after action).site id).terminal = .uninitialized := by
  by_cases created : session.HasSite id
  · rw [site_after_of_idle created (idle created)]
    exact was
  · exact (site_after_of_not_hasSite created admitted).terminal_eq

/-- **When an action turns a site generic**: it reads there, and its walk comes to the end of a full
chain. -/
theorem Reachable.turned_iff (reached : session.Reachable) (admitted : session.Admits action)
    (was : (session.site id).terminal = .uninitialized) :
    ((session.after action).site id).terminal = .generic ↔
      ∃ receiver, session.receiverAt id action = some receiver ∧
        (session.site id).FallsOff session.world receiver ∧
        ((session.site id).passed session.world receiver).nodes.length =
          (session.site id).limits.chain := by
  by_cases created : session.HasSite id
  · cases reads : session.receiverAt id action with
    | none =>
      rw [terminal_after_of_idle admitted (fun _ => reads) was]
      exact iff_of_false nofun nofun
    | some receiver =>
      rw [Session.site_after_of_reads created reads, Site.turns_iff_full (reached.length_le id) was]
      constructor
      · exact fun full => ⟨receiver, rfl, full⟩
      · rintro ⟨_, ⟨⟩, full⟩
        exact full
  · rw [terminal_after_of_idle admitted (absurd · created) was, site_of_not_hasSite created]
    refine iff_of_false nofun ?_
    rintro ⟨receiver, -, -, full⟩
    exact absurd full (Nat.ne_of_lt Limits.standard.chain_pos)

/-- A site that an action turns generic is left full, and so with a node at least. -/
theorem Reachable.full_of_turned (reached : session.Reachable) (admitted : session.Admits action)
    (was : (session.site id).terminal = .uninitialized)
    (turned : ((session.after action).site id).terminal = .generic) :
    ((session.after action).site id).nodes.length = (session.site id).limits.chain ∧
      0 < ((session.after action).site id).nodes.length := by
  obtain ⟨receiver, reads, -, -⟩ := (reached.turned_iff admitted was).1 turned
  have created : session.HasSite id := by
    by_contra absent
    cases (terminal_after_of_idle admitted (absurd · absent) was).symm.trans turned
  rw [Session.site_after_of_reads created reads] at turned ⊢
  rw [Site.length_of_turned (reached.length_le id) was turned]
  exact ⟨rfl, (session.site id).limits.chain_pos⟩

/-- **A read that drops a node makes room for its own**: the site does not turn generic, and what
the name resolves to is added. -/
theorem Reachable.room_of_dropped (reached : session.Reachable) {receiver : ObjectId}
    (reads : session.receiverAt id action = some receiver)
    (was : (session.site id).terminal = .uninitialized)
    (fell : (session.site id).FallsOff session.world receiver)
    (dropped : 0 < (Site.walk session.world receiver 0 (session.site id).nodes).prunes) :
    ((session.after action).site id).terminal = .uninitialized ∧
      ∀ resolution, session.world.resolve (session.site id).limits.hierarchy receiver
          (session.site id).name = .ok resolution →
        ∃ guard, Guard.ofResolution resolution = .ok guard ∧
          ((session.after action).site id).nodes =
            ((session.site id).passed session.world receiver).nodes ++
              [⟨guard, resolution.location⟩] := by
  have bound := reached.length_le id
  have created : session.HasSite id := by
    by_contra absent
    rw [site_of_not_hasSite absent] at dropped
    exact Nat.lt_irrefl 0 dropped
  rw [Session.site_after_of_reads created reads]
  refine ⟨Site.not_turned_of_dropped bound was dropped, ?_⟩
  intro resolution resolved
  have room := Site.length_passed_lt bound dropped
  obtain ⟨guard, guarded, added⟩ := Site.readObject_of_room was fell room resolved
  exact ⟨guard, guarded, congrArg Site.nodes added⟩

/-- **The limit, and when it makes a site generic.** A site never has more nodes than its limit. It
turns generic exactly by a read whose walk, having dropped what was stale, comes to the end of a
chain of that length; a walk comes to the end if no node passes. So a site never turns generic with
a chain that is not full, and a read that drops a node makes room for its own. -/
theorem bounded_and_generic_iff_full (reached : session.Reachable) (id : SiteId) :
    let before := session.site id
    before.nodes.length ≤ before.limits.chain ∧
      ∀ action, session.Admits action → before.terminal = .uninitialized →
        let after := (session.after action).site id
        (after.terminal = .generic ↔
          ∃ receiver, session.receiverAt id action = some receiver ∧
            before.FallsOff session.world receiver ∧
            (before.passed session.world receiver).nodes.length = before.limits.chain) ∧
        (after.terminal = .generic →
          after.nodes.length = before.limits.chain ∧ 0 < after.nodes.length) ∧
        ∀ receiver, session.receiverAt id action = some receiver →
          (before.FallsOff session.world receiver ↔
            ∀ node ∈ before.nodes, node.guard.check session.world receiver ≠ .ok .pass) ∧
          (before.FallsOff session.world receiver →
            ((before.passed session.world receiver).nodes = before.nodes.filter fun node =>
              node.guard.check session.world receiver ≠ .ok .stale) ∧
            (0 < (Site.walk session.world receiver 0 before.nodes).prunes →
              after.terminal = .uninitialized ∧
              ∀ resolution, session.world.resolve before.limits.hierarchy receiver before.name =
                  .ok resolution →
                ∃ guard, Guard.ofResolution resolution = .ok guard ∧
                  after.nodes = (before.passed session.world receiver).nodes ++
                    [⟨guard, resolution.location⟩])) := by
  intro before
  have backed : before.Backed session.world := reached.backed id
  refine ⟨reached.length_le id, ?_⟩
  intro action admitted was after
  refine ⟨reached.turned_iff admitted was, reached.full_of_turned admitted was, ?_⟩
  intro receiver reads
  have there := hasObject_of_receiverAt admitted reads
  refine ⟨backed.fallsOff_iff reached.sound there, ?_⟩
  intro fell
  refine ⟨backed.passed_nodes reached.sound there fell, ?_⟩
  exact reached.room_of_dropped reads was fell

/-- A site with room for one node meets a class that inherits an attribute, which then gets another
attribute of its own: the node is stale. -/
def crowded : List Action :=
  [.newRegistry, .newClass ⟨0⟩ "Base" none, .newClass ⟨0⟩ "Derived" (some ⟨0⟩),
    .setAttribute ⟨0⟩ (.object (.cls ⟨0⟩)) "x" (.int 1),
    .newSite "x" ⟨1, 256, Nat.one_pos, Limits.standard.hierarchy_pos⟩,
    .read ⟨0⟩ (.object (.cls ⟨1⟩)), .setAttribute ⟨0⟩ (.object (.cls ⟨1⟩)) "y" (.int 2)]

/-- A read from the base misses the node and turns the site generic; one from the class drops the
node, and the site has room for the new one. -/
theorem bounded_and_generic_iff_full_of_crowded :
    let session := empty.run crowded
    let other := (session.after (.read ⟨0⟩ (.object (.cls ⟨0⟩)))).site ⟨0⟩
    let again := (session.after (.read ⟨0⟩ (.object (.cls ⟨1⟩)))).site ⟨0⟩
    (session.site ⟨0⟩).nodes.length = 1 ∧ (other.terminal = .generic ∧ other.nodes.length = 1) ∧
      again.terminal = .uninitialized ∧ again.nodes.length = 1 := by
  intro session other again
  have reached : session.Reachable := ⟨crowded, by decide, rfl⟩
  obtain ⟨-, step⟩ := bounded_and_generic_iff_full reached ⟨0⟩
  obtain ⟨turns, full, -⟩ := step (.read ⟨0⟩ (.object (.cls ⟨0⟩))) (by decide) rfl
  obtain ⟨-, -, drops⟩ := step (.read ⟨0⟩ (.object (.cls ⟨1⟩))) (by decide) rfl
  have turned : other.terminal = .generic := turns.2 ⟨.cls ⟨0⟩, rfl, ⟨1, rfl⟩, rfl⟩
  obtain ⟨-, room⟩ := (drops (.cls ⟨1⟩) rfl).2 ⟨0, rfl⟩
  exact ⟨rfl, ⟨turned, (full turned).1⟩, (room (by decide)).1, rfl⟩

/-! ## Generic sites -/

theorem hasSite_of_generic (was : (session.site id).terminal = .generic) :
    session.HasSite id := by
  by_contra fresh
  rw [site_of_not_hasSite fresh] at was
  cases was

/-- An action leaves a generic site generic, and adds no node. -/
theorem after_of_generic (was : (session.site id).terminal = .generic) (action : Action) :
    ((session.after action).site id).terminal = .generic ∧
      ((session.after action).site id).nodes.Sublist (session.site id).nodes := by
  have created := hasSite_of_generic was
  cases reads : session.receiverAt id action with
  | none =>
    rw [site_after_of_idle created reads]
    exact ⟨was, .refl _⟩
  | some receiver =>
    rw [site_after_of_reads created reads]
    exact Site.readObject_of_generic was session.world receiver

/-- **A generic site stays generic**, and only loses nodes. -/
theorem run_of_generic (was : (session.site id).terminal = .generic) (history : List Action) :
    ((session.run history).site id).terminal = .generic ∧
      ((session.run history).site id).nodes.Sublist (session.site id).nodes := by
  induction history generalizing session with
  | nil => exact ⟨was, .refl _⟩
  | cons action rest ih =>
    obtain ⟨still, fewer⟩ := after_of_generic was action
    obtain ⟨always, fewest⟩ := ih still
    exact ⟨always, fewest.trans fewer⟩

/-- **The step of a chain, and a generic site for good.** An action drops at most one node of a
site, one with an invalid token, and then adds at most one at the end, at a site that is not
generic. A generic site stays generic whatever happens, and its chain only gets shorter. -/
theorem step_and_generic_forever (reached : session.Reachable) (id : SiteId) :
    let before := session.site id
    (∀ action, session.Admits action →
      let after := (session.after action).site id
      ∃ (front : List CachedNode) (removed : Option CachedNode) (back : List CachedNode)
        (appended : Option CachedNode),
        before.nodes = front ++ removed.toList ++ back ∧
          after.nodes = front ++ back ++ appended.toList ∧
          (∀ node ∈ removed, ∃ a ∈ node.guard.tokens, session.world.holds a = false) ∧
          ∀ node ∈ appended,
            before.terminal = .uninitialized ∧ after.terminal = .uninitialized) ∧
      (before.terminal = .generic → ∀ history, session.AdmitsAll history →
        let later := (session.run history).site id
        later.terminal = .generic ∧ later.nodes.Sublist before.nodes) := by
  intro before
  constructor
  · intro action admitted after
    by_cases created : session.HasSite id
    · cases reads : session.receiverAt id action with
      | none =>
        have step : after = before := site_after_of_idle created reads
        refine ⟨before.nodes, none, [], none, ?_, ?_, nofun, nofun⟩
        · simp
        · simp [step]
      | some receiver =>
        have step : after = (before.readObject session.world receiver).site :=
          site_after_of_reads created reads
        have there := hasObject_of_receiverAt admitted reads
        rw [step]
        exact Site.exists_step_readObject (reached.distinct id) (reached.backed id) reached.sound
          there
    · have empty : before = .new "" .standard := site_of_not_hasSite created
      have nascent : after.Nascent session.world := site_after_of_not_hasSite created admitted
      obtain ⟨appended, nodes⟩ := nascent.exists_nodes_eq
      refine ⟨[], none, [], appended, ?_, nodes, nofun, ?_⟩
      · rw [empty]
        rfl
      · intro node _
        rw [empty]
        exact ⟨rfl, nascent.terminal_eq⟩
  · intro was history _
    exact run_of_generic was history

/-- After a read from the base has made the crowded site generic, a read from the class drops the
stale node, and no read adds another. -/
theorem step_and_generic_forever_of_crowded :
    let session := empty.run (crowded ++ [.read ⟨0⟩ (.object (.cls ⟨0⟩))])
    let read := Action.read ⟨0⟩ (.object (.cls ⟨1⟩))
    (∃ node, (session.site ⟨0⟩).nodes = [node] ∧
        (∃ a ∈ node.guard.tokens, session.world.holds a = false) ∧
        ((session.after read).site ⟨0⟩).nodes = []) ∧
      ((session.run [read, read]).site ⟨0⟩).terminal = .generic ∧
      ((session.run [read, read]).site ⟨0⟩).nodes = [] := by
  intro session read
  have reached : session.Reachable := ⟨crowded ++ [_], by decide, rfl⟩
  obtain ⟨step, forever⟩ := step_and_generic_forever reached ⟨0⟩
  obtain ⟨front, removed, back, appended, all, kept, stale, -⟩ := step read (by decide)
  have nothing : ((session.after read).site ⟨0⟩).nodes = [] := rfl
  rw [nothing] at kept
  obtain ⟨⟨rfl, rfl⟩, -⟩ : (front = [] ∧ back = []) ∧ appended.toList = [] := by
    simpa only [List.nil_eq, List.append_eq_nil_iff] using kept
  rw [List.append_nil, List.nil_append] at all
  refine ⟨?_, (forever rfl [read, read] (by decide)).1, rfl⟩
  cases removed with
  | none => cases all
  | some node => exact ⟨node, all, stale node rfl, nothing⟩

end Session

end InlineCache
