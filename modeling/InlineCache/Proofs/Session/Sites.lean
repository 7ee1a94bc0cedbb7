import InlineCache.Proofs.Session.Transparency

/-!
# Call sites along histories

An action touches a call site only by reading there, from one object and in the object world before
the action. So whatever is to hold of every site of a reachable session has to hold of a new site,
has to survive the growth of the object world, and has to be kept by one read.

## Main definitions

* `Session.receiverAt`: the object from which an action reads at a site

## Main results

* `site_after`: what an action does to a site
* `site_after_of_not_hasSite`: what it makes of a site that was not there
* `after_load`: a read at a place finds its site there, or creates it first
* `Reachable.site_induction`: what holds of every site of a reachable session
-/

namespace InlineCache

/-- A read of a value is a read from the object that it is, if it is one. -/
theorem Site.site_read (world : World) (value : Value) (site : Site) :
    (site.read world value).site =
      match value.object? with
      | some receiver => (site.readObject world receiver).site
      | none => site := by
  unfold Site.read
  cases value.object? <;> rfl

/-- The site is new, or new and read once. -/
def Site.Nascent (world : World) (site : Site) : Prop :=
  ∃ name limits, site = .new name limits ∨
    ∃ receiver, world.HasObject receiver ∧
      site = ((Site.new name limits).readObject world receiver).site

namespace Session

variable {session : Session} {id other : SiteId} {action : Action}

/-- The object from which the action reads at the site, if it does. -/
def receiverAt (session : Session) (id : SiteId) : Action → Option ObjectId
  | .read site value | .readInt site value | .readFloat site value | .readBool site value =>
    if site = id then value.object? else none
  | .load table place name value =>
    match (session.siteAt table place name).answer with
    | .ok site => if site = id then value.object? else none
    | .error _ => none
  | _ => none

/-! ## Operations -/

/-- A read replaces the site that it is performed at. -/
theorem site_readWith {α : Type} (session : Session) (id other : SiteId)
    (perform : World → Site → Read α) :
    (session.readWith id perform).session.site other =
      if id = other ∧ session.HasSite other then (perform session.world (session.site other)).site
      else session.site other := by
  rcases id with ⟨i⟩
  rcases other with ⟨j⟩
  simp only [readWith, site, HasSite, SiteId.mk.injEq, Array.getD_eq_getD_getElem?,
    Array.getElem?_setIfInBounds]
  by_cases same : i = j
  · subst same
    by_cases created : i < session.sites.size
    · simp [created]
    · simp [created]
  · simp [same]

theorem site_newSite_of_hasSite (created : session.HasSite id) (name : String) (limits : Limits) :
    (session.newSite name limits).2.site id = session.site id := by
  have ne : id.index ≠ session.sites.size := Nat.ne_of_lt created
  simp [newSite, site, Array.getElem?_push, ne]

theorem site_of_not_hasSite (fresh : ¬ session.HasSite id) :
    session.site id = .new "" .standard := by
  have out : session.sites.size ≤ id.index := Nat.le_of_not_lt fresh
  simp only [site, Array.getD_eq_getD_getElem?, Array.getElem?_eq_none out]
  rfl

/-- A site that was not there before a creation is a new one. -/
theorem site_newSite_of_not_hasSite (fresh : ¬ session.HasSite id) (name : String)
    (limits : Limits) :
    ∃ name' limits', (session.newSite name limits).2.site id = .new name' limits' := by
  by_cases last : id.index = session.sites.size
  · exact ⟨name, limits, by simp [newSite, site, last]⟩
  · have out : session.sites.size ≤ id.index := Nat.le_of_not_lt fresh
    refine ⟨"", .standard, ?_⟩
    simp only [newSite, site, Array.getD_eq_getD_getElem?, Array.getElem?_push, last,
      Array.getElem?_eq_none out]
    rfl

theorem hasSite_newSite (created : session.HasSite id) (name : String) (limits : Limits) :
    (session.newSite name limits).2.HasSite id := by
  have lt : id.index < session.sites.size := created
  simp only [newSite, HasSite, Array.size_push]
  omega

/-- Finding a site leaves the sites alone; creating one adds one. -/
theorem siteAt_cases (session : Session) (table : TableId) (place : Place) (name : String) :
    (session.siteAt table place name).session.sites = session.sites ∨
      ∃ limits, (session.siteAt table place name).session.sites =
        (session.newSite name limits).2.sites := by
  unfold siteAt
  split
  · dsimp only
    split <;> exact .inl rfl
  · exact .inr ⟨_, rfl⟩

theorem site_congr {later : Session} (same : later.sites = session.sites) (id : SiteId) :
    later.site id = session.site id := by
  simp only [site, same]

theorem hasSite_congr {later : Session} (same : later.sites = session.sites) (id : SiteId) :
    later.HasSite id ↔ session.HasSite id := by
  simp only [HasSite, same]

theorem site_siteAt_of_hasSite (created : session.HasSite id) (table : TableId) (place : Place)
    (name : String) : (session.siteAt table place name).session.site id = session.site id := by
  rcases session.siteAt_cases table place name with same | ⟨limits, same⟩
  · exact site_congr same id
  · exact (site_congr same id).trans (site_newSite_of_hasSite created name limits)

theorem hasSite_siteAt (created : session.HasSite id) (table : TableId) (place : Place)
    (name : String) : (session.siteAt table place name).session.HasSite id := by
  rcases session.siteAt_cases table place name with same | ⟨limits, same⟩
  · exact (hasSite_congr same id).2 created
  · exact (hasSite_congr same id).2 (hasSite_newSite created name limits)

theorem site_siteAt_of_not_hasSite (fresh : ¬ session.HasSite id) (table : TableId)
    (place : Place) (name : String) : ∃ name' limits',
      (session.siteAt table place name).session.site id = .new name' limits' := by
  rcases session.siteAt_cases table place name with same | ⟨limits, same⟩
  · exact ⟨_, _, (site_congr same id).trans (site_of_not_hasSite fresh)⟩
  · obtain ⟨name', limits', new⟩ := site_newSite_of_not_hasSite fresh name limits
    exact ⟨name', limits', (site_congr same id).trans new⟩

/-! ## Tables -/

/-- A change of one table leaves the others as they are. -/
theorem table_of_modify {later : Session} {t : TableId} {change : SiteTable → SiteTable}
    (tables : later.tables = session.tables.modify t.index change) (u : TableId) :
    later.table u =
      if u = t ∧ session.HasTable u then change (session.table u) else session.table u := by
  rcases t with ⟨i⟩
  rcases u with ⟨j⟩
  simp only [table, tables, HasTable, TableId.mk.injEq, Array.getD_eq_getD_getElem?,
    Array.getElem?_modify]
  by_cases same : j = i
  · subst same
    by_cases there : j < session.tables.size
    · simp [there]
    · simp [there]
  · simp [same, Ne.symm same]

theorem tables_clearTable (session : Session) (t : TableId) :
    (session.clearTable t).tables = session.tables.modify t.index SiteTable.clear := rfl

/-- A site that is there is found, and the session stays as it is. -/
theorem session_siteAt_of_found {table : TableId} {place : Place}
    (found : session.siteAt? table place = some id) (name : String) :
    (session.siteAt table place name).session = session := by
  simp only [siteAt, found]
  split <;> rfl

/-- Otherwise the next site is created and entered. -/
theorem tables_siteAt_of_free {table : TableId} {place : Place}
    (free : session.siteAt? table place = none) (name : String) :
    (session.siteAt table place name).session.tables = session.tables.modify table.index
      fun entries => entries.insert place ⟨session.sites.size⟩ := by
  simp only [siteAt, free]
  rfl

/-- It is a new one, with the limits of the table. -/
theorem site_siteAt_next {table : TableId} {place : Place}
    (free : session.siteAt? table place = none) (name : String) :
    (session.siteAt table place name).session.site ⟨session.sites.size⟩ =
      .new name (session.table table).limits := by
  simp only [siteAt, free]
  simp [newSite, site]

/-- A table finds the site at a place again, and leaves the session alone. -/
theorem siteAt_siteAt (session : Session) {table : TableId} (there : session.HasTable table)
    (place : Place) (name : String) :
    let found := session.siteAt table place name
    (found.session.siteAt table place name).session = found.session ∧
      (found.session.siteAt table place name).answer = found.answer := by
  cases known : session.siteAt? table place with
  | some id => simp only [session_siteAt_of_found known, and_self]
  | none =>
    have found : (session.siteAt table place name).session.siteAt? table place =
        some ⟨session.sites.size⟩ := by
      rw [siteAt?, table_of_modify (tables_siteAt_of_free known name), if_pos ⟨rfl, there⟩]
      exact SiteTable.find?_insert_self _ _ _
    have named : ((session.siteAt table place name).session.site ⟨session.sites.size⟩).name =
        name := congrArg Site.name (site_siteAt_next known name)
    have answer : (session.siteAt table place name).answer = .ok ⟨session.sites.size⟩ := by
      simp only [siteAt, known]
      rfl
    dsimp only
    rw [siteAt.eq_def (session.siteAt table place name).session, found]
    dsimp only
    rw [if_pos named, answer]
    exact ⟨rfl, rfl⟩

/-! ## Actions -/

/-- A read that tests the answer, or does not, does to a site what a plain read does. -/
theorem site_readWith_of_read {α : Type} {perform : World → Site → Read α} {value : Value}
    (plain : ∀ world site, (perform world site).site = (Site.read world value site).site)
    (at_ : SiteId) (created : session.HasSite id) :
    (session.readWith at_ perform).session.site id =
      match if at_ = id then value.object? else none with
      | some receiver => ((session.site id).readObject session.world receiver).site
      | none => session.site id := by
  rw [site_readWith, plain, Site.site_read]
  by_cases here : at_ = id
  · simp [here, created]
  · simp [here]

/-- **What an action does to a site**: it reads from one object, or leaves the site alone. -/
theorem site_after (created : session.HasSite id) (action : Action) :
    (session.after action).site id =
      match session.receiverAt id action with
      | some receiver => ((session.site id).readObject session.world receiver).site
      | none => session.site id := by
  cases action with
  | setSuperclass c superclass =>
    rw [after, perform]
    split <;> rfl
  | newSite name limits => exact site_newSite_of_hasSite created name limits
  | siteAt table place name => exact site_siteAt_of_hasSite created table place name
  | read at_ value => exact site_readWith_of_read (fun _ _ => rfl) at_ created
  | readInt at_ value => exact site_readWith_of_read (fun _ _ => rfl) at_ created
  | readFloat at_ value => exact site_readWith_of_read (fun _ _ => rfl) at_ created
  | readBool at_ value => exact site_readWith_of_read (fun _ _ => rfl) at_ created
  | load table place name value =>
    have found := site_siteAt_of_hasSite created table place name
    rw [after, perform, Session.load, receiverAt]
    dsimp only
    cases answer : (session.siteAt table place name).answer with
    | error error => exact found
    | ok at_ =>
      have kept := hasSite_siteAt created table place name
      refine (site_readWith_of_read (fun _ _ => rfl) at_ kept).trans ?_
      rw [found, world_siteAt]
  | _ => rfl

theorem site_after_of_reads (created : session.HasSite id) {receiver : ObjectId}
    (reads : session.receiverAt id action = some receiver) :
    (session.after action).site id =
      ((session.site id).readObject session.world receiver).site := by
  rw [site_after created, reads]

theorem site_after_of_idle (created : session.HasSite id)
    (idle : session.receiverAt id action = none) :
    (session.after action).site id = session.site id := by
  rw [site_after created, idle]

/-- **A read at a place** finds its site there, or creates it first. -/
theorem after_load {table : TableId} (there : session.HasTable table) (place : Place)
    (name : String) (value : Value) :
    session.after (.load table place name value) =
      session.run [.siteAt table place name, .load table place name value] := by
  obtain ⟨same, answer⟩ := siteAt_siteAt session there place name
  have again : session.after (.siteAt table place name) =
    (session.siteAt table place name).session := rfl
  rw [run_cons, run_cons, run_nil, again]
  simp only [after, perform, Session.load, same, answer]
  split <;> rfl

/-- An action reads from objects that are there. -/
theorem hasObject_of_receiverAt (admitted : session.Admits action) {receiver : ObjectId}
    (reads : session.receiverAt id action = some receiver) :
    session.world.HasObject receiver := by
  have object {value : Value} (hv : session.world.HasValue value) {at_ : SiteId}
      (reads : (if at_ = id then value.object? else none) = some receiver) :
      session.world.HasObject receiver := by
    split at reads
    · exact hv receiver reads
    · cases reads
  cases action with
  | read | readInt | readFloat | readBool => exact object admitted.2 reads
  | load table place name value =>
    rw [receiverAt] at reads
    split at reads
    · exact object admitted.2 reads
    · cases reads
  | _ => cases reads

/-- **A site that was not there before an action** is new, or new and read once. -/
theorem site_after_of_not_hasSite (fresh : ¬ session.HasSite id)
    (admitted : session.Admits action) :
    ((session.after action).site id).Nascent session.world := by
  -- Most actions leave the list of sites as it is.
  have kept {later : Session} (same : later.sites = session.sites) :
      (later.site id).Nascent session.world :=
    ⟨_, _, .inl ((site_congr same id).trans (site_of_not_hasSite fresh))⟩
  have read {α : Type} (at_ : SiteId) (perform : World → Site → Read α) :
      ((session.readWith at_ perform).session.site id).Nascent session.world := by
    refine ⟨"", .standard, .inl ?_⟩
    rw [site_readWith, if_neg fun here => fresh here.2]
    exact site_of_not_hasSite fresh
  cases action with
  | setSuperclass c superclass =>
    rw [after, perform]
    split <;> exact kept rfl
  | newSite name limits =>
    obtain ⟨name', limits', new⟩ := site_newSite_of_not_hasSite fresh name limits
    exact ⟨name', limits', .inl new⟩
  | siteAt table place name =>
    obtain ⟨name', limits', new⟩ := site_siteAt_of_not_hasSite fresh table place name
    exact ⟨name', limits', .inl new⟩
  | read at_ value => exact read at_ fun world site => site.read world value
  | readInt at_ value => exact read at_ fun world site => site.readInt world value
  | readFloat at_ value => exact read at_ fun world site => site.readFloat world value
  | readBool at_ value => exact read at_ fun world site => site.readBool world value
  | load table place name value =>
    obtain ⟨name', limits', new⟩ := site_siteAt_of_not_hasSite fresh table place name
    refine ⟨name', limits', ?_⟩
    rw [after, perform, Session.load]
    dsimp only
    split
    · rw [Session.read, site_readWith, new, world_siteAt, Site.site_read]
      split
      · cases object : value.object? with
        | none => exact .inl rfl
        | some receiver => exact .inr ⟨receiver, admitted.2 receiver object, rfl⟩
      · exact .inl rfl
    · exact .inl new
  | _ => exact kept rfl

/-! ## Reachable sessions -/

/-- **Induction on the life of a site**: what holds of a new site, in whatever world, is kept while
the world grows, and is kept by one read, holds of every site of a reachable session. -/
theorem Reachable.site_induction {motive : World → Site → Prop}
    (new : ∀ world name limits, motive world (.new name limits))
    (grows : ∀ world later site, world.Sound → world.Extends later → motive world site →
      motive later site)
    (read : ∀ world site receiver, world.Sound → world.HasObject receiver → site.Backed world →
      motive world site → motive world (site.readObject world receiver).site)
    (reached : session.Reachable) (id : SiteId) : motive session.world (session.site id) := by
  refine Reachable.induction (motive := fun s => ∀ id, motive s.world (s.site id)) ?_ ?_ reached id
  · intro id
    have fresh : ¬ empty.HasSite id := Nat.not_lt_zero _
    rw [site_of_not_hasSite fresh]
    exact new _ _ _
  · intro session action reached holds admitted id
    have sound := reached.sound
    have ext := (grows_after sound admitted).ext
    -- The action reads in the world before it, and then the world grows.
    apply grows session.world _ _ sound ext
    by_cases created : session.HasSite id
    · cases reads : session.receiverAt id action with
      | none =>
        rw [site_after_of_idle created reads]
        exact holds id
      | some receiver =>
        rw [site_after_of_reads created reads]
        have there := hasObject_of_receiverAt admitted reads
        exact read _ _ receiver sound there (reached.backed id) (holds id)
    · obtain ⟨name, limits, same | ⟨receiver, there, same⟩⟩ :=
        site_after_of_not_hasSite created admitted
      · rw [same]
        exact new _ _ _
      · rw [same]
        exact read _ _ receiver sound there nofun (new _ _ _)

end Session

end InlineCache
