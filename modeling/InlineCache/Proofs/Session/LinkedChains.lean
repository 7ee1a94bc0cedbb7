import InlineCache.Proofs.Session.Replay
import InlineCache.Proofs.Session.Walks
import InlineCache.Proofs.Site.LinkedRead

/-!
# A call site over links

Let a call site of a session keep its nodes in a chain of links. Whatever action reads at the site,
there is one read over the links, and it does what the session does: the answer and the reports are
the same, and the links are left as a layout of the nodes that the site has by then. One link at
most is retired, the one of a stale node, and one at most is new.

So the two stay together along any history. A node that was in the chain keeps the link that it
owns as long as it is there, and when it is dropped, that link is retired for good.

## Main definitions

* `LinkedSite.Steps`: what one read does to the entries of a chain
* `Session.LinkedRuns`: the reads of a history, performed over links

## Main results

* `LinkedSite.Lays.exists_step`, `Reachable.exists_linkedRead`: one read over links
* `LinkedRuns.unique`, `LinkedRuns.keeps`: the reads of a history are the only ones, and keep what
  no write undoes
* `Reachable.exists_linkedRuns`: a history, performed over links, entry by entry
* `Reachable.linked_run`: a site over links does what the site of the session does
-/

namespace InlineCache

/-- A sublist that is shorter by one at most leaves out one entry at most. -/
theorem exists_split_of_sublist {α : Type} {kept all : List α} (fewer : kept.Sublist all)
    (close : all.length ≤ kept.length + 1) :
    ∃ (front : List α) (removed : Option α) (back : List α),
      all = front ++ removed.toList ++ back ∧ kept = front ++ back := by
  induction fewer with
  | slnil => exact ⟨[], none, [], rfl, rfl⟩
  | @cons kept all entry fewer ih =>
    have same : kept = all := fewer.eq_of_length_le (Nat.le_of_succ_le_succ close)
    exact ⟨[], some entry, all, rfl, same⟩
  | @cons_cons kept all entry fewer ih =>
    obtain ⟨front, removed, back, rfl, rfl⟩ := ih (Nat.le_of_succ_le_succ close)
    exact ⟨entry :: front, removed, back, rfl, rfl⟩

/-! ## One read -/

namespace LinkedSite

variable {world : World} {receiver : ObjectId} {linked : LinkedSite} {site : Site}
  {entries : List (CachedNode × LinkId)}

/-- What a read over links does to the entries of a chain with this terminal: it drops at most one,
that of a node with an invalid token, and retires its link; then it adds at most one, which owns a
new link. -/
structure Steps (world : World) (linked : LinkedSite) (terminal : Terminal) (read : LinkedRead)
    (entries front back : List (CachedNode × LinkId))
    (removed appended : Option (CachedNode × LinkId)) : Prop where
  entries_eq : entries = front ++ removed.toList ++ back
  stale : ∀ entry ∈ removed, ∃ a ∈ entry.1.guard.tokens, world.holds a = false
  retired : ∀ entry ∈ removed, (read.site.links.get entry.2).retired = true
  fresh : ∀ entry ∈ appended, entry.2 = ⟨linked.created⟩ ∧ terminal = .uninitialized

/-- No two entries of a chain own the same link. -/
theorem Lays.nodup (lays : linked.Lays entries site) : entries.Nodup :=
  List.Nodup.of_map Prod.snd (List.nodup_cons.1 lays.distinct).2

/-- The node of an entry that is left out is not one of the others. -/
theorem Lays.not_mem_of_removed (lays : linked.Lays entries site) (distinct : site.Distinct)
    {front back : List (CachedNode × LinkId)} {entry : CachedNode × LinkId}
    (split : entries = front ++ [entry] ++ back) : entry.1 ∉ (front ++ back).map Prod.fst := by
  have nodup := distinct.nodup
  rw [← lays.nodes, split, List.append_assoc, List.singleton_append, List.map_append,
    List.map_cons, List.nodup_middle, List.nodup_cons, ← List.map_append] at nodup
  exact nodup.1

/-- **One read over links** does what the read of the site does, and this to the chain. -/
theorem Lays.exists_step (lays : linked.Lays entries site) (distinct : site.Distinct)
    (backed : site.Backed world) (sound : world.Sound) (hr : world.HasObject receiver) :
    ∃ read front back removed appended, linked.Reads world receiver read ∧
      read.answer = (site.readObject world receiver).answer ∧
      read.events = (site.readObject world receiver).events ∧
      linked.Steps world site.terminal read entries front back removed appended ∧
      read.site.Lays (front ++ back ++ appended.toList) (site.readObject world receiver).site := by
  obtain ⟨read, kept, reads, mirrors, kept_nodes, fewer, retired⟩ :=
    lays.exists_reads (backed.sane receiver)
  obtain ⟨appended, laid, owns⟩ := mirrors.site
  -- the walk drops one node at most, and so the chain loses one entry at most
  have close : entries.length ≤ kept.length + 1 := by
    obtain ⟨front, dropped, back, all, passed, -⟩ := distinct.exists_dropped backed sound hr
    have before := congrArg List.length (lays.nodes.trans all)
    have after := congrArg List.length (kept_nodes.trans passed)
    have one : dropped.toList.length ≤ 1 := by cases dropped <;> simp
    simp only [List.length_map, List.length_append] at before after
    omega
  obtain ⟨front, removed, back, split, rfl⟩ := exists_split_of_sublist fewer close
  refine ⟨read, front, back, removed, appended, reads, mirrors.answer, mirrors.events,
    ⟨split, ?_, ?_, ?_⟩, laid⟩
  · rintro entry ⟨⟩
    have mem : entry.1 ∈ site.nodes := by
      rw [← lays.nodes, split]
      exact List.mem_map_of_mem (by simp)
    have gone := lays.not_mem_of_removed distinct split
    rw [kept_nodes] at gone
    have probed := (Site.mem_walk_kept_or_stale 0 mem).resolve_left gone
    have verdict := (backed entry.1 mem).outcome_of_probed sound hr probed
    exact (Guard.verdict_eq_stale_iff.1 verdict.symm).2
  · rintro entry ⟨⟩
    have gone := lays.not_mem_of_removed distinct split
    refine retired entry (by simp [split]) fun stays => gone (List.mem_map_of_mem stays)
  · intro entry mem
    refine ⟨owns entry mem, ?_⟩
    obtain ⟨added, nodes, room⟩ := Site.nodes_readObject world receiver site
    have same := laid.nodes
    rw [List.map_append, kept_nodes, nodes, List.append_cancel_left_eq, Option.mem_def.1 mem]
      at same
    cases added with
    | none => cases same
    | some node => exact (room node rfl).2.1

end LinkedSite

namespace Session

variable {session : Session} {history : List Action} {id : SiteId} {action : Action}
  {receiver : ObjectId} {linked last last' : LinkedSite} {reads reads' : List LinkedRead}
  {entries : List (CachedNode × LinkId)}

/-- **An action that reads at a site** over whose links its nodes are laid out: there is a read over
the links, it gives the answer and the reports of the site, and leaves the nodes laid out that the
site has afterwards. -/
theorem Reachable.exists_linkedRead (reached : session.Reachable)
    (admitted : session.Admits action) (reads : session.receiverAt id action = some receiver)
    (lays : linked.Lays entries ((session.located action).site id)) :
    let before := (session.located action).site id
    ∃ read front back removed appended, linked.Reads session.world receiver read ∧
      read.answer = (before.readObject session.world receiver).answer ∧
      read.events = session.reportsOf id action ∧
      linked.Steps session.world before.terminal read entries front back removed appended ∧
      read.site.Lays (front ++ back ++ appended.toList) ((session.after action).site id) := by
  intro before
  have distinct : before.Distinct := (reached.located admitted).distinct id
  rw [reportsOf_of_reads reads, reached.site_after_of_reads admitted reads]
  exact lays.exists_step distinct (reached.backed_located admitted id) reached.sound
    (hasObject_of_receiverAt admitted reads)

/-! ## Histories -/

/-- The reads of a history at a site that keeps its nodes in links, and the site afterwards. What
the session does besides leaves the links alone. -/
inductive LinkedRuns (id : SiteId) :
    Session → LinkedSite → List Action → List LinkedRead → LinkedSite → Prop where
  /-- Nothing is left to do. -/
  | nil {session : Session} {linked : LinkedSite} : LinkedRuns id session linked [] [] linked
  /-- The action does not read at the site. -/
  | idle {session : Session} {linked last : LinkedSite} {action : Action} {rest : List Action}
    {reads : List LinkedRead} (idle : session.receiverAt id action = none)
    (runs : LinkedRuns id (session.after action) linked rest reads last) :
    LinkedRuns id session linked (action :: rest) reads last
  /-- The action reads at the site. -/
  | read {session : Session} {linked last : LinkedSite} {action : Action} {rest : List Action}
    {receiver : ObjectId} {read : LinkedRead} {reads : List LinkedRead}
    (reads_at : session.receiverAt id action = some receiver)
    (here : linked.Reads session.world receiver read)
    (runs : LinkedRuns id (session.after action) read.site rest reads last) :
    LinkedRuns id session linked (action :: rest) (read :: reads) last

theorem LinkedRuns.unique (runs : LinkedRuns id session linked history reads last)
    (runs' : LinkedRuns id session linked history reads' last') :
    reads = reads' ∧ last = last' := by
  induction runs generalizing reads' with
  | nil =>
    cases runs'
    exact ⟨rfl, rfl⟩
  | idle idle runs ih =>
    cases runs' with
    | idle idle' runs' => exact ih runs'
    | read reads_at here' runs' => cases idle.symm.trans reads_at
  | read reads_at here runs ih =>
    cases runs' with
    | idle idle' runs' => cases idle'.symm.trans reads_at
    | read reads_at' here' runs' =>
      cases reads_at.symm.trans reads_at'
      cases here.unique here'
      obtain ⟨rfl, rfl⟩ := ih runs'
      exact ⟨rfl, rfl⟩

/-- **A history keeps retired links, and generic ends**, whatever is written to the links. -/
theorem LinkedRuns.keeps (runs : LinkedRuns id session linked history reads last) :
    Links.Keeps linked.created linked.links last.links ∧ linked.created ≤ last.created := by
  induction runs with
  | nil => exact ⟨.refl _ _, Nat.le_refl _⟩
  | idle idle runs ih => exact ih
  | read reads_at here runs ih =>
    obtain ⟨first, grown⟩ := here.keeps
    exact ⟨first.trans ih.1 grown, grown.trans ih.2⟩

/-- What a history has made of the entries of a chain: those that are still there own the links that
they owned, the others have their link retired, and what was added owns links that are new. -/
structure Descends (linked last : LinkedSite) (entries kept added : List (CachedNode × LinkId)) :
    Prop where
  sublist : kept.Sublist entries
  retired : ∀ entry ∈ entries, entry ∉ kept → (last.links.get entry.2).retired = true
  fresh : ∀ entry ∈ added, linked.created ≤ entry.2.index

/-- A history after one read. -/
theorem Descends.of_steps {read : LinkedRead} {front back kept added : List (CachedNode × LinkId)}
    {removed appended : Option (CachedNode × LinkId)} {terminal : Terminal} {site later : Site}
    (here : linked.Reads session.world receiver read)
    (steps : linked.Steps session.world terminal read entries front back removed appended)
    (lays : linked.Lays entries site)
    (between : read.site.Lays (front ++ back ++ appended.toList) later)
    (keeps : Links.Keeps read.site.created read.site.links last.links)
    (descends : Descends read.site last (front ++ back ++ appended.toList) kept added) :
    ∃ kept' added', kept ++ added = kept' ++ added' ∧
      Descends linked last entries kept' added' := by
  have grown : linked.created ≤ read.site.created := here.keeps.2
  -- of what is kept in the end, all but what this read has added was there before
  obtain ⟨stayed, new, rfl, fewer, fewer'⟩ := List.sublist_append_iff.1 descends.sublist
  refine ⟨stayed, new ++ added, List.append_assoc .., ?_, ?_, ?_⟩
  · rw [steps.entries_eq]
    exact fewer.trans ((List.sublist_append_left ..).append_right back)
  · intro entry mem gone
    have mem' : entry ∈ front ++ back ∨ entry ∈ removed := by
      rw [steps.entries_eq] at mem
      simp only [List.mem_append, Option.mem_toList] at mem ⊢
      tauto
    rcases mem' with stays | dropped
    · refine descends.retired entry (List.mem_append_left _ stays) fun kept => ?_
      rcases List.mem_append.1 kept with kept | kept
      · exact gone kept
      · exact (List.nodup_append.1 between.nodup).2.2 entry stays entry (fewer'.subset kept) rfl
    · have retired := steps.retired entry dropped
      have old : entry.2.index < linked.created :=
        lays.created entry.2 (List.mem_cons_of_mem _ (List.mem_map_of_mem mem))
      rw [keeps.retired entry.2 (Nat.lt_of_lt_of_le old grown) retired]
      exact retired
  · intro entry mem
    rcases List.mem_append.1 mem with mem | mem
    · rw [(steps.fresh entry (Option.mem_toList.1 (fewer'.subset mem))).1]
    · exact grown.trans (descends.fresh entry mem)

/-- **A history, performed over links**: there is one run of it, its reports are those of the site,
and it leaves the nodes laid out that the site has afterwards. -/
theorem Reachable.exists_linkedRuns (reached : session.Reachable)
    (admitted : session.AdmitsAll history) (created : session.HasSite id)
    (lays : linked.Lays entries (session.site id)) :
    ∃ reads last kept added, LinkedRuns id session linked history reads last ∧
      reads.flatMap LinkedRead.events = session.reportsAt id history ∧
      Descends linked last entries kept added ∧
      last.Lays (kept ++ added) ((session.run history).site id) := by
  induction history generalizing session linked entries with
  | nil =>
    refine ⟨[], linked, entries, [], .nil, rfl, ⟨.refl _, ?_, nofun⟩, ?_⟩
    · intro entry mem gone
      exact absurd mem gone
    · rw [List.append_nil]
      exact lays
  | cons action rest ih =>
    have later := hasSite_after created action
    cases reads_at : session.receiverAt id action with
    | none =>
      rw [← site_after_of_idle created reads_at] at lays
      obtain ⟨reads, last, kept, added, runs, reported, descends, laid⟩ :=
        ih (reached.after admitted.1) admitted.2 later lays
      refine ⟨reads, last, kept, added, .idle reads_at runs, ?_, descends, laid⟩
      rw [reported, reportsAt, reportsOf_of_idle reads_at, List.nil_append]
    | some receiver =>
      rw [← site_located_of_hasSite created action] at lays
      obtain ⟨read, front, back, removed, appended, here, -, told, steps, between⟩ :=
        reached.exists_linkedRead admitted.1 reads_at lays
      obtain ⟨reads, last, kept, added, runs, reported, descends, laid⟩ :=
        ih (reached.after admitted.1) admitted.2 later between
      obtain ⟨kept', added', same, descends⟩ :=
        Descends.of_steps here steps lays between runs.keeps.1 descends
      rw [same] at laid
      refine ⟨read :: reads, last, kept', added', .read reads_at here runs, ?_, descends, laid⟩
      rw [List.flatMap_cons, told, reported, reportsAt]

/-- **A site over links does what the site of the session does**, along any history from when its
nodes were laid out in a row: there is one run, its reports are those of the site, and in the end it
has counted the same, and its links are a chain of the same nodes with the same end. -/
theorem Reachable.linked_run (reached : session.Reachable) (admitted : session.AdmitsAll history)
    (created : session.HasSite id) :
    let start := LinkedSite.ofSite (session.site id)
    let later := (session.run history).site id
    ∃ reads last,
      (∀ reads' last', LinkedRuns id session start history reads' last' ↔
        reads' = reads ∧ last' = last) ∧
      reads.flatMap LinkedRead.events = session.reportsAt id history ∧
      last.counters = later.counters ∧ last.links.Chain last.head later.terminal later.nodes := by
  intro start later
  obtain ⟨reads, last, kept, added, runs, reported, -, laid⟩ :=
    reached.exists_linkedRuns admitted created (LinkedSite.lays_ofSite (session.site id))
  refine ⟨reads, last, ?_, reported, laid.counters, laid.chain⟩
  intro reads' last'
  constructor
  · exact fun runs' => runs'.unique runs
  · rintro ⟨rfl, rfl⟩
    exact runs

end Session

end InlineCache
