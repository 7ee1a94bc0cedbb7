import InlineCache.Proofs.Site.Loop

/-!
# Reads over links

A call site that keeps its nodes in a chain of links reads by the loop over them. What is left to do
at the end of the chain is written through the link in which the loop has ended: the terminal is
replaced by the generic end, or by a new node, which owns a link of its own. If the link refuses,
the answer is the same, and what was not written is neither counted nor reported.

Such a read does what the read of a site does that keeps its nodes in a list: it gives the same
answer and the same reports, and leaves the chain laid out that the list has become. The nodes that
are kept keep the links that they own, a node that is dropped has its link retired, and the one that
is added owns a link that is new.

## Main definitions

* `LinkedSite`, `LinkedRead`: a call site over links, and one read of it
* `LinkedSite.Reads`: the reads of it, by the loop and what its end asks for
* `LinkedSite.Lays`: the chain of a site over links has the nodes of a site, and ends like it

## Main results

* `Reads.unique`, `Reads.keeps`: a read is the only one, and keeps what no write undoes
* `answer_readTerminal`, `readTerminal_of_refused`: the answer at the end, whatever the links are,
  and what a read does if a link refuses
* `Lays.readTerminal`: what is written at the end of a chain
* `Lays.exists_loops`: what the loop of a read leaves of a chain that is laid out
* `Lays.exists_reads`: a read over links does what the read of the site does
-/

namespace InlineCache

/-- A call site that keeps its nodes in a chain of links. -/
structure LinkedSite where
  /-- The attribute that it reads. -/
  name : String
  /-- Its limits. -/
  limits : Limits
  /-- All links that were created for it. -/
  links : Links
  /-- The link at which its chain begins. -/
  head : LinkId
  /-- The number of links that were created. -/
  created : Nat
  /-- What it counted. -/
  counters : Counters

/-- One read over links: its answer, the reports in order, and the site afterwards. -/
structure LinkedRead where
  /-- The answer. -/
  answer : Except ReadError Value
  /-- The reports. -/
  events : List SiteEvent
  /-- The site afterwards. -/
  site : LinkedSite

namespace LinkedSite

/-- The nodes of a site, laid out in a row. -/
def ofSite (site : Site) : LinkedSite where
  name := site.name
  limits := site.limits
  links := .ofNodes site.nodes site.terminal
  head := ⟨0⟩
  created := site.nodes.length + 1
  counters := site.counters

/-! ## The end of the chain -/

/-- Resolves by name, at a site that adds no nodes. -/
def readGeneric (world : World) (receiver : ObjectId) (site : LinkedSite) : LinkedRead where
  answer := world.lookup site.limits.hierarchy receiver site.name
  events := []
  site := { site with counters := site.counters.addGenericRead }

/-- Puts the generic end into the link that holds the terminal, and resolves by name. -/
def generalize (world : World) (receiver : ObjectId) (last : LinkId) (position : Nat)
    (site : LinkedSite) : LinkedRead :=
  match site.links.replace last (.terminal .uninitialized) (.terminal .generic) with
  | some links =>
    let read := { site with
      links
      counters := site.counters.addGeneralization : LinkedSite }.readGeneric world receiver
    { read with events := .generalized position :: read.events }
  | none => site.readGeneric world receiver

/-- Resolves by name, and puts the resolution into the link that holds the terminal, as a node that
owns a new link. A failed resolution adds nothing. -/
def specialize (world : World) (receiver : ObjectId) (last : LinkId) (position : Nat)
    (site : LinkedSite) : LinkedRead :=
  match world.resolve site.limits.hierarchy receiver site.name with
  | .error error => ⟨.error error, [], site⟩
  | .ok resolution =>
    match Guard.ofResolution resolution with
    | .error error => ⟨.error error, [], site⟩
    | .ok guard =>
      let own : LinkId := ⟨site.created⟩
      let grown : LinkedSite := { site with
        links := site.links.set own ⟨.terminal .uninitialized, false⟩
        created := site.created + 1 }
      match grown.links.replace last (.terminal .uninitialized)
          (.cached ⟨guard, resolution.location⟩ own) with
      | some links =>
        { answer := .ok resolution.value
          events := [.specialized resolution.depth guard.kind position]
          site := { grown with links, counters := grown.counters.addSpecialization } }
      | none => ⟨.ok resolution.value, [], grown⟩

/-- What a read does at the end of the chain, with `position` nodes passed: the link `last` was
found to hold the terminal. -/
def readTerminal (world : World) (receiver : ObjectId) (last : LinkId) (position : Nat)
    (terminal : Terminal) (site : LinkedSite) : LinkedRead :=
  match terminal with
  | .generic => site.readGeneric world receiver
  | .uninitialized =>
    if site.limits.chain ≤ position then site.generalize world receiver last position
    else site.specialize world receiver last position

/-! ## Reads -/

/-- A read is counted, and its loop enters the chain. -/
def enter (site : LinkedSite) : Cursor := .enter site.links site.head site.counters.addRead

/-- The site as the loop leaves it. -/
def leave (site : LinkedSite) (last : Cursor) : LinkedSite :=
  { site with links := last.links, counters := last.counters }

/-- **A read over links** is a run of the loop, and what its end asks for. -/
inductive Reads (world : World) (receiver : ObjectId) (site : LinkedSite) : LinkedRead → Prop where
  /-- A node answers. -/
  | hit {run : List Cursor} {last : Cursor} {value : Value}
    (loops : Loops world receiver site.enter run last (.hit value)) :
    Reads world receiver site ⟨.ok value, last.events, site.leave last⟩
  /-- A node is in a state that should have been ruled out. -/
  | failed {run : List Cursor} {last : Cursor} {error : ReadError}
    (loops : Loops world receiver site.enter run last (.failed error)) :
    Reads world receiver site ⟨.error error, last.events, site.leave last⟩
  /-- The loop has come to the end. -/
  | fellOff {run : List Cursor} {last : Cursor} {position : Nat} {terminal : Terminal}
    {read : LinkedRead} (loops : Loops world receiver site.enter run last (.fellOff position))
    (held : (last.links.get last.link).node = .terminal terminal)
    (ended : (site.leave last).readTerminal world receiver last.link position terminal = read) :
    Reads world receiver site { read with events := last.events ++ read.events }

/-- The links of the site lay out the nodes of another one: these are the entries of its chain, each
with the link that it owns. -/
structure Lays (linked : LinkedSite) (entries : List (CachedNode × LinkId)) (site : Site) :
    Prop where
  name : linked.name = site.name
  limits : linked.limits = site.limits
  counters : linked.counters = site.counters
  nodes : entries.map Prod.fst = site.nodes
  ends : linked.links.Ends site.terminal linked.head entries
  distinct : (Links.along linked.head entries).Nodup
  created : ∀ link ∈ Links.along linked.head entries, link.index < linked.created

end LinkedSite

/-- The read over links gives the answer and the reports of another read, and leaves these entries
laid out as that one leaves its nodes, with a new one behind them at most. It owns the link that was
created next. -/
structure LinkedRead.Mirrors (linked : LinkedRead) (entries : List (CachedNode × LinkId))
    (created : Nat) (read : Read Value) : Prop where
  answer : linked.answer = read.answer
  events : linked.events = read.events
  site : ∃ appended : Option (CachedNode × LinkId),
    linked.site.Lays (entries ++ appended.toList) read.site ∧
      ∀ entry ∈ appended, entry.2 = ⟨created⟩

namespace LinkedSite

variable {world : World} {receiver : ObjectId} {linked : LinkedSite} {site : Site}
  {read read' : LinkedRead} {last : LinkId} {position : Nat}

theorem Reads.unique (reads : linked.Reads world receiver read)
    (reads' : linked.Reads world receiver read') : read = read' := by
  cases reads with
  | hit loops =>
    cases reads' with
    | hit loops' =>
      obtain ⟨-, rfl, ⟨⟩⟩ := loops.unique loops'
      rfl
    | failed loops' | fellOff loops' => cases (loops.unique loops').2.2
  | failed loops =>
    cases reads' with
    | failed loops' =>
      obtain ⟨-, rfl, ⟨⟩⟩ := loops.unique loops'
      rfl
    | hit loops' | fellOff loops' => cases (loops.unique loops').2.2
  | fellOff loops held ended =>
    cases reads' with
    | fellOff loops' held' ended' =>
      obtain ⟨-, rfl, ⟨⟩⟩ := loops.unique loops'
      cases held.symm.trans held'
      rw [← ended, ← ended']
    | hit loops' | failed loops' => cases (loops.unique loops').2.2

theorem Lays.chain {entries : List (CachedNode × LinkId)} (lays : linked.Lays entries site) :
    linked.links.Chain linked.head site.terminal site.nodes :=
  ⟨entries, lays.nodes, lays.ends, lays.distinct⟩

/-- **Every site** can be laid out. -/
theorem lays_ofSite (site : Site) : (ofSite site).Lays (Links.row 0 site.nodes) site where
  name := rfl
  limits := rfl
  counters := rfl
  nodes := Links.map_fst_row 0 site.nodes
  ends := Links.ends_ofNodes [] site.nodes site.terminal
  distinct := Links.nodup_row 0 site.nodes
  created link mem := by
    rcases List.mem_cons.1 mem with rfl | mem
    · exact Nat.succ_pos _
    · have bound := Links.le_of_mem_row mem
      rw [Nat.zero_add] at bound
      exact Nat.lt_succ_of_le bound

/-! ## What no read undoes -/

theorem keeps_generalize (world : World) (receiver : ObjectId) (last : LinkId) (position : Nat)
    (site : LinkedSite) :
    Links.Keeps site.created site.links (site.generalize world receiver last position).site.links ∧
      site.created ≤ (site.generalize world receiver last position).site.created := by
  unfold generalize
  split
  · next replaced => exact ⟨Links.keeps_replace replaced, Nat.le_refl _⟩
  · exact ⟨.refl _ _, Nat.le_refl _⟩

theorem keeps_specialize (world : World) (receiver : ObjectId) (last : LinkId) (position : Nat)
    (site : LinkedSite) :
    Links.Keeps site.created site.links (site.specialize world receiver last position).site.links ∧
      site.created ≤ (site.specialize world receiver last position).site.created := by
  -- the new link is beyond those that were created before
  have grows : Links.Keeps site.created site.links
      (site.links.set ⟨site.created⟩ ⟨.terminal .uninitialized, false⟩) :=
    Links.keeps_set fun old => absurd old (Nat.lt_irrefl _)
  unfold specialize
  split
  · exact ⟨.refl _ _, Nat.le_refl _⟩
  · split
    · exact ⟨.refl _ _, Nat.le_refl _⟩
    · dsimp only
      split
      · next replaced =>
        exact ⟨grows.trans (Links.keeps_replace replaced) (Nat.le_refl _), Nat.le_succ _⟩
      · exact ⟨grows, Nat.le_succ _⟩

theorem keeps_readTerminal (world : World) (receiver : ObjectId) (last : LinkId) (position : Nat)
    (terminal : Terminal) (site : LinkedSite) :
    let read := site.readTerminal world receiver last position terminal
    Links.Keeps site.created site.links read.site.links ∧ site.created ≤ read.site.created := by
  unfold readTerminal
  split
  · exact ⟨.refl _ _, Nat.le_refl _⟩
  · split
    · exact keeps_generalize world receiver last position site
    · exact keeps_specialize world receiver last position site

/-- **A read** keeps retired links, and generic ends. -/
theorem Reads.keeps (reads : linked.Reads world receiver read) :
    Links.Keeps linked.created linked.links read.site.links ∧
      linked.created ≤ read.site.created := by
  cases reads with
  | hit loops | failed loops => exact ⟨loops.keeps _, Nat.le_refl _⟩
  | fellOff loops held ended =>
    subst ended
    obtain ⟨more, grown⟩ := keeps_readTerminal world receiver _ _ _ (linked.leave _)
    exact ⟨(loops.keeps _).trans more (Nat.le_refl _), grown⟩

/-! ## Refusals -/

/-- The answer at the end does not depend on the links. -/
theorem answer_readTerminal (name : linked.name = site.name) (limits : linked.limits = site.limits)
    (world : World) (receiver : ObjectId) (last : LinkId) (position : Nat) :
    (linked.readTerminal world receiver last position site.terminal).answer =
      (site.readTerminal world receiver position).answer := by
  unfold LinkedSite.readTerminal Site.readTerminal
  rw [limits]
  cases site.terminal with
  | generic =>
    rw [readGeneric, Site.readGeneric, name, limits]
  | uninitialized =>
    dsimp only
    split
    · unfold LinkedSite.generalize Site.generalize
      split <;> rw [readGeneric, Site.readGeneric, name, limits]
    · unfold LinkedSite.specialize Site.specialize
      rw [name, limits]
      cases world.resolve site.limits.hierarchy receiver site.name with
      | error error => rfl
      | ok resolution =>
        dsimp only
        cases Guard.ofResolution resolution with
        | error error => rfl
        | ok guard =>
          dsimp only
          split <;> rfl

/-- **A link that refuses**, being retired or with something else in it by now, stays as it is, like
all others. The read counts and reports neither that a node was added nor that the chain turned
generic. -/
theorem readTerminal_of_refused (old : last.index < linked.created)
    (refused : (linked.links.get last).retired = true ∨
      (linked.links.get last).node ≠ .terminal .uninitialized)
    (world : World) (receiver : ObjectId) (position : Nat) :
    let read := linked.readTerminal world receiver last position .uninitialized
    read.events = [] ∧
      read.site.counters.specializations = linked.counters.specializations ∧
      read.site.counters.generalizations = linked.counters.generalizations ∧
      ∀ id : LinkId, id.index < linked.created → read.site.links.get id = linked.links.get id := by
  have refuses {links : Links} (same : links.get last = linked.links.get last)
      (content : ChainNode) : links.replace last (.terminal .uninitialized) content = none :=
    Links.replace_of_refused (same ▸ refused.imp_right .inl)
  unfold readTerminal
  dsimp only
  split
  · rw [generalize, refuses rfl]
    exact ⟨rfl, rfl, rfl, fun _ _ => rfl⟩
  · unfold specialize
    cases world.resolve linked.limits.hierarchy receiver linked.name with
    | error error => exact ⟨rfl, rfl, rfl, fun _ _ => rfl⟩
    | ok resolution =>
      dsimp only
      cases Guard.ofResolution resolution with
      | error error => exact ⟨rfl, rfl, rfl, fun _ _ => rfl⟩
      | ok guard =>
        -- the link of the new node is there by then, but no other one has changed
        have same (id : LinkId) (old : id.index < linked.created) :
            (linked.links.set ⟨linked.created⟩ ⟨.terminal .uninitialized, false⟩).get id =
              linked.links.get id := by
          refine Links.get_set_of_ne ?_ linked.links _
          rintro rfl
          exact Nat.lt_irrefl _ old
        dsimp only
        rw [refuses (same last old)]
        exact ⟨rfl, rfl, rfl, same⟩

/-! ## What is written at the end of a chain -/

section Lays

variable {entries : List (CachedNode × LinkId)}

/-- Nothing but the counters changes. -/
theorem Lays.count (lays : linked.Lays entries site) (counters : Counters) :
    Lays { linked with counters } entries { site with counters } where
  name := lays.name
  limits := lays.limits
  counters := rfl
  nodes := lays.nodes
  ends := lays.ends
  distinct := lays.distinct
  created := lays.created

/-- Nothing is added. -/
theorem Lays.mirrors (lays : read.site.Lays entries site) (created : Nat) :
    read.Mirrors entries created ⟨read.answer, read.events, site⟩ :=
  ⟨rfl, rfl, none, (List.append_nil entries).symm ▸ lays, nofun⟩

theorem Lays.readGeneric (lays : linked.Lays entries site) (world : World) (receiver : ObjectId)
    (created : Nat) :
    (linked.readGeneric world receiver).Mirrors entries created
      (site.readGeneric world receiver) := by
  have counted := lays.count linked.counters.addGenericRead
  rw [lays.counters] at counted
  refine ⟨?_, rfl, none, ?_, nofun⟩
  · rw [LinkedSite.readGeneric, Site.readGeneric, lays.limits, lays.name]
  · rw [Option.toList_none, List.append_nil, LinkedSite.readGeneric, Site.readGeneric,
      lays.counters]
    exact counted

/-- **A new node** replaces the terminal, which its own link holds from then on. -/
theorem Lays.append (lays : linked.Lays entries site)
    (arrives : linked.links.Leads linked.head entries last) (was : site.terminal = .uninitialized)
    (node : CachedNode) (counters : Counters) :
    let own : LinkId := ⟨linked.created⟩
    Lays { linked with
      links := (linked.links.set own ⟨.terminal .uninitialized, false⟩).set last
        ⟨.cached node own, false⟩
      created := linked.created + 1
      counters } (entries ++ [(node, own)]) { site with
      nodes := site.nodes ++ [node]
      counters } := by
  intro own
  have fresh : own ∉ Links.along linked.head entries :=
    fun mem => Nat.lt_irrefl _ (lays.created own mem)
  have other : own ≠ last := fun same => fresh (same ▸ arrives.mem_along)
  have still : (linked.links.set own ⟨.terminal .uninitialized, false⟩).Leads linked.head entries
      last := by
    refine arrives.congr fun far mem => Links.get_set_of_ne ?_ _ _
    rintro rfl
    exact fresh (List.dropLast_subset _ mem)
  constructor
  · exact lays.name
  · exact lays.limits
  · rfl
  · rw [List.map_append, lays.nodes]
    rfl
  · refine ⟨own, (still.set lays.distinct _).snoc (Links.get_set_self ..), ?_⟩
    rw [was, Links.get_set_of_ne other, Links.get_set_self]
  · rw [Links.along_append]
    refine List.nodup_append.2 ⟨lays.distinct, List.pairwise_singleton .., ?_⟩
    intro far mem own' mem' same
    rw [same, List.mem_singleton.1 mem'] at mem
    exact fresh mem
  · rw [Links.along_append]
    intro far mem
    rcases List.mem_append.1 mem with mem | mem
    · exact Nat.lt_succ_of_lt (lays.created far mem)
    · rw [List.mem_singleton.1 mem]
      exact Nat.lt_succ_self _

section End

variable (lays : linked.Lays entries site) (arrives : linked.links.Leads linked.head entries last)
  (held : linked.links.get last = ⟨.terminal .uninitialized, false⟩)

include lays arrives held

/-- **The generic end** replaces the terminal. -/
theorem Lays.generalize (world : World) (receiver : ObjectId) (position created : Nat) :
    (linked.generalize world receiver last position).Mirrors entries created
      (site.generalize world receiver position) := by
  have turned : Lays { linked with
      links := linked.links.set last ⟨.terminal .generic, false⟩
      counters := linked.counters.addGeneralization } entries { site with
      terminal := .generic
      counters := site.counters.addGeneralization } :=
    { name := lays.name
      limits := lays.limits
      counters := by rw [lays.counters]
      nodes := lays.nodes
      ends := ⟨last, arrives.set lays.distinct _, Links.get_set_self ..⟩
      distinct := lays.distinct
      created := lays.created }
  rw [LinkedSite.generalize, Links.replace_of_held held]
  have mirrors := turned.readGeneric world receiver created
  exact ⟨mirrors.answer, congrArg (.generalized position :: ·) mirrors.events, mirrors.site⟩

/-- **Specialization** adds a node, if the name resolves. -/
theorem Lays.specialize (world : World) (receiver : ObjectId) (position : Nat)
    (was : site.terminal = .uninitialized) :
    (linked.specialize world receiver last position).Mirrors entries linked.created
      (site.specialize world receiver position) := by
  have same : world.resolve linked.limits.hierarchy receiver linked.name =
      world.resolve site.limits.hierarchy receiver site.name := by
    rw [lays.limits, lays.name]
  unfold LinkedSite.specialize Site.specialize
  rw [same]
  cases world.resolve site.limits.hierarchy receiver site.name with
  | error error => exact Lays.mirrors lays _
  | ok resolution =>
    dsimp only
    cases Guard.ofResolution resolution with
    | error error => exact Lays.mirrors lays _
    | ok guard =>
      let own : LinkId := ⟨linked.created⟩
      have other : last ≠ own := by
        rintro rfl
        exact Nat.lt_irrefl _ (lays.created own arrives.mem_along)
      have held' : (linked.links.set own ⟨.terminal .uninitialized, false⟩).get last =
          ⟨.terminal .uninitialized, false⟩ := by rw [Links.get_set_of_ne other, held]
      dsimp only
      rw [Links.replace_of_held held']
      refine ⟨rfl, rfl, some (⟨guard, resolution.location⟩, own), ?_, ?_⟩
      · dsimp only
        rw [lays.counters]
        exact lays.append arrives was _ _
      · rintro _ ⟨⟩
        rfl

end End

/-- **What is written at the end of a chain** is what the other site decides there. -/
theorem Lays.readTerminal (lays : linked.Lays entries site)
    (arrives : linked.links.Leads linked.head entries last)
    (held : linked.links.get last = ⟨.terminal site.terminal, false⟩) (world : World)
    (receiver : ObjectId) (position : Nat) :
    (linked.readTerminal world receiver last position site.terminal).Mirrors entries linked.created
      (site.readTerminal world receiver position) := by
  unfold LinkedSite.readTerminal Site.readTerminal
  rw [lays.limits]
  cases was : site.terminal with
  | generic => exact lays.readGeneric world receiver _
  | uninitialized =>
    rw [was] at held
    dsimp only
    split
    · exact lays.generalize arrives held world receiver position _
    · exact lays.specialize arrives held world receiver position was

/-! ## Reads -/

/-- What the loop leaves of the chain, before its end is written. -/
theorem Lays.leave (lays : linked.Lays entries site) {kept : List (CachedNode × LinkId)}
    {last : Cursor} {ending : Site.Ending}
    (left : Cursor.Leaves linked.head site.terminal [] entries kept last ending)
    (nodes : kept.map Prod.fst = (site.passed world receiver).nodes) :
    (linked.leave last).Lays kept
      { site.passed world receiver with counters := last.counters } where
  name := lays.name
  limits := lays.limits
  counters := rfl
  nodes := nodes
  ends := left.ends
  distinct := lays.distinct.sublist ((left.sublist.map Prod.snd).cons_cons linked.head)
  created link mem :=
    lays.created link (((left.sublist.map Prod.snd).cons_cons linked.head).subset mem)

/-- **The loop of a read** leaves the chain laid out that the walk has kept. -/
theorem Lays.exists_loops (lays : linked.Lays entries site)
    (sane : ∀ node ∈ site.nodes, ∃ probe, Site.Probed world receiver node probe) :
    let walked := Site.walk world receiver 0 site.nodes
    let passed := site.passed world receiver
    ∃ run last kept, Loops world receiver linked.enter run last walked.ending ∧
      last.events = walked.events ∧ kept.map Prod.fst = passed.nodes ∧
      Cursor.Leaves linked.head site.terminal [] entries kept last walked.ending ∧
      (linked.leave last).Lays kept
        { passed with counters := walked.ending.count passed.counters } := by
  intro walked passed
  have entries_sane : ∀ entry ∈ entries, ∃ probe, Site.Probed world receiver entry.1 probe := by
    intro entry mem
    apply sane
    rw [← lays.nodes]
    exact List.mem_map_of_mem mem
  obtain ⟨run, last, kept, follows, nodes, left⟩ :=
    (Cursor.Stands.enter lays.ends lays.distinct linked.counters.addRead).exists_follows
      entries_sane
  rw [lays.nodes] at follows nodes left
  have counted : last.counters = walked.ending.count passed.counters := by
    rw [follows.counters, lays.counters]
    rfl
  refine ⟨run, last, kept, follows.loops, follows.events, nodes, left, ?_⟩
  rw [← counted]
  exact lays.leave left nodes

/-- **A read over links does what the read of the site does.** The entries that the walk has not
kept have their link retired. -/
theorem Lays.exists_reads (lays : linked.Lays entries site)
    (sane : ∀ node ∈ site.nodes, ∃ probe, Site.Probed world receiver node probe) :
    ∃ read kept, linked.Reads world receiver read ∧
      read.Mirrors kept linked.created (site.readObject world receiver) ∧
      kept.map Prod.fst = (site.passed world receiver).nodes ∧ kept.Sublist entries ∧
      ∀ entry ∈ entries, entry ∉ kept → (read.site.links.get entry.2).retired = true := by
  obtain ⟨run, last, kept, loops, reported, nodes, left, laid⟩ := lays.exists_loops sane
  cases ended : (Site.walk world receiver 0 site.nodes).ending with
  | hit value =>
    rw [ended] at loops laid
    have eq : site.readObject world receiver = ⟨.ok value, last.events,
        { site.passed world receiver with
          counters := (site.passed world receiver).counters.addHit }⟩ := by
      simp only [Site.readObject, ended, reported]
      rfl
    rw [eq]
    exact ⟨_, kept, .hit loops, Lays.mirrors laid _, nodes, left.sublist, left.retired⟩
  | failed error =>
    rw [ended] at loops laid
    have eq : site.readObject world receiver =
        ⟨.error error, last.events, site.passed world receiver⟩ := by
      simp only [Site.readObject, ended, reported]
      rfl
    rw [eq]
    exact ⟨_, kept, .failed loops, Lays.mirrors laid _, nodes, left.sublist, left.retired⟩
  | fellOff position =>
    rw [ended] at loops laid
    -- the loop stands at the link that holds the terminal
    have stands := left.arrives position ended
    have held : last.links.get last.link = ⟨.terminal site.terminal, false⟩ := by
      obtain ⟨there, leads, held⟩ := stands.ends
      cases leads
      exact held
    have mirrors := laid.readTerminal stands.leads held world receiver position
    have eq : site.readObject world receiver =
        { (site.passed world receiver).readTerminal world receiver position with
          events := last.events ++
            ((site.passed world receiver).readTerminal world receiver position).events } := by
      simp only [Site.readObject, ended, reported]
      rfl
    obtain ⟨more, -⟩ := keeps_readTerminal world receiver last.link position site.terminal
      (linked.leave last)
    rw [eq]
    refine ⟨_, kept, .fellOff loops (congrArg Link.node held) rfl,
      ⟨mirrors.answer, congrArg (last.events ++ ·) mirrors.events, mirrors.site⟩, nodes,
      left.sublist, ?_⟩
    intro entry mem gone
    have retired := left.retired entry mem gone
    have old : entry.2.index < linked.created :=
      lays.created _ (List.mem_cons_of_mem _ (List.mem_map_of_mem mem))
    exact (more.retired entry.2 old retired).symm ▸ retired

end Lays

end LinkedSite

end InlineCache
