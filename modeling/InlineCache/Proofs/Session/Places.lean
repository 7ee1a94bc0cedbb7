import InlineCache.Proofs.Session.Sites

/-!
# Where an action reads

A table lists sites that were created, and sites are never deleted. So an action that reads at a
site finds it there; only a read at a place may create its site first. With the session in which the
site is there, whatever the action, all reads can be spoken of in one way.

## Main definitions

* `Session.Listed`: tables list sites that were created
* `Session.located`: the session in which an action performs its read

## Main results

* `Reachable.listed`: the tables of a reachable session do
* `Reachable.hasSite_of_receiverAt`: an action reads at a site that is there
* `Reachable.site_after_of_reads`: what the action makes of the site
* `aspect_after_of_idle`: an action that does not read at a site leaves its counters and its visible
  state alone
-/

namespace InlineCache

/-- A new site has no nodes and is not generic. -/
theorem Site.profile_new (name : String) (limits : Limits) :
    (Site.new name limits).profile = ⟨[], .uninitialized⟩ := rfl

namespace Session

variable {session : Session} {id : SiteId} {action : Action} {receiver : ObjectId}

/-! ## Sites stay -/

theorem hasSite_readWith {α : Type} (session : Session) (at_ : SiteId)
    (perform : World → Site → Read α) (id : SiteId) :
    (session.readWith at_ perform).session.HasSite id ↔ session.HasSite id := by
  simp [readWith, HasSite]

/-- A read at a place creates a site only in looking for the one there. -/
theorem hasSite_load_iff (session : Session) (table : TableId) (place : Place) (name : String)
    (value : Value) (id : SiteId) : (session.load table place name value).session.HasSite id ↔
      (session.siteAt table place name).session.HasSite id := by
  unfold load
  dsimp only
  split
  · exact hasSite_readWith _ _ _ id
  · exact Iff.rfl

/-- No action deletes a site. -/
theorem hasSite_after (created : session.HasSite id) (action : Action) :
    (session.after action).HasSite id := by
  cases action with
  | setSuperclass c superclass =>
    rw [after, perform]
    split <;> exact created
  | newSite name limits => exact hasSite_newSite created name limits
  | siteAt table place name => exact hasSite_siteAt created table place name
  | load table place name value =>
    exact (hasSite_load_iff session table place name value id).2
      (hasSite_siteAt created table place name)
  | read | readInt | readFloat | readBool =>
    simp only [after, perform, Session.read, Session.readInt, Session.readFloat, Session.readBool,
      hasSite_readWith, created]
  | _ => exact created

theorem hasSite_run (created : session.HasSite id) (history : List Action) :
    (session.run history).HasSite id := by
  induction history generalizing session with
  | nil => exact created
  | cons action rest ih => exact ih (hasSite_after created action)

/-! ## Tables list sites that are there -/

/-- Whatever a table lists was created. -/
def Listed (session : Session) : Prop :=
  ∀ table, ∀ id ∈ (session.table table).sites, session.HasSite id

theorem Listed.congr (listed : session.Listed) {later : Session}
    (tables : later.tables = session.tables)
    (stay : ∀ id, session.HasSite id → later.HasSite id) : later.Listed := by
  intro table id mem
  apply stay
  apply listed table
  simpa only [Session.table, tables] using mem

theorem mem_sites_of_siteAt? {table : TableId} {place : Place}
    (found : session.siteAt? table place = some id) : id ∈ (session.table table).sites := by
  rw [siteAt?, SiteTable.find?, Option.map_eq_some_iff] at found
  obtain ⟨entry, found, rfl⟩ := found
  exact List.mem_map_of_mem (List.mem_of_find?_eq_some found)

/-- The site of a place is entered in the table once it was created. -/
theorem Listed.siteAt (listed : session.Listed) (table : TableId) (place : Place)
    (name : String) : (session.siteAt table place name).session.Listed := by
  cases known : session.siteAt? table place with
  | some id => rwa [session_siteAt_of_found known]
  | none =>
    intro other id mem
    by_cases fresh : id = ⟨session.sites.size⟩
    · simp [fresh, Session.siteAt, known, newSite, HasSite]
    · apply hasSite_siteAt
      apply listed other
      rw [table_of_modify (tables_siteAt_of_free known name)] at mem
      split at mem
      · exact (List.mem_cons.1 mem).resolve_left fresh
      · exact mem

theorem Listed.clearTable (listed : session.Listed) (table : TableId) :
    (session.clearTable table).Listed := by
  intro other id mem
  apply listed other
  rw [table_of_modify (tables_clearTable session table)] at mem
  split at mem
  · cases mem
  · exact mem

theorem Listed.newTable (listed : session.Listed) (limits : Limits) :
    (session.newTable limits).2.Listed := by
  intro other id mem
  apply listed other
  simp only [Session.newTable, Session.table, Array.getD_eq_getD_getElem?,
    Array.getElem?_push] at mem ⊢
  split at mem
  · simp [SiteTable.sites, SiteTable.new] at mem
  · exact mem

theorem Listed.after (listed : session.Listed) (action : Action) :
    (session.after action).Listed := by
  have stay := fun id (created : session.HasSite id) => hasSite_after created action
  cases action with
  | newTable limits => exact listed.newTable limits
  | clearTable table => exact listed.clearTable table
  | siteAt table place name => exact listed.siteAt table place name
  | load table place name value =>
    have found := listed.siteAt table place name
    rw [Session.after, perform, Session.load]
    dsimp only
    split
    · exact found.congr rfl fun id => (hasSite_readWith _ _ _ id).2
    · exact found
  | setSuperclass c superclass =>
    rw [Session.after, perform]
    split <;> exact listed
  | _ => exact listed.congr rfl stay

/-- **The tables of a reachable session** list sites that are there. -/
theorem Reachable.listed (reached : session.Reachable) : session.Listed := by
  refine Reachable.induction (motive := Listed) ?_ (fun _ action _ listed _ => listed.after action)
    reached
  intro table id mem
  cases mem

theorem Listed.hasSite_of_answer (listed : session.Listed) {table : TableId} {place : Place}
    {name : String} (answer : (session.siteAt table place name).answer = .ok id) :
    (session.siteAt table place name).session.HasSite id := by
  cases known : session.siteAt? table place with
  | some found =>
    have there := listed table found (mem_sites_of_siteAt? known)
    simp only [Session.siteAt, known] at answer
    split at answer
    · cases answer
      exact hasSite_siteAt there table place name
    · cases answer
  | none =>
    simp only [Session.siteAt, known] at answer
    cases answer
    simp [Session.siteAt, known, newSite, HasSite]

/-! ## The session of a read -/

/-- The session in which an action performs its read: a read at a place has found its site there, or
has created it. -/
def located (session : Session) : Action → Session
  | .load table place name _ => session.after (.siteAt table place name)
  | _ => session

theorem after_located (admitted : session.Admits action) :
    (session.located action).after action = session.after action := by
  cases action with
  | load table place name value => exact (after_load admitted.1 place name value).symm
  | _ => rfl

theorem world_located (session : Session) (action : Action) :
    (session.located action).world = session.world := by
  cases action with
  | load table place name value => exact world_siteAt session table place name
  | _ => rfl

theorem receiverAt_located (admitted : session.Admits action) (id : SiteId) :
    (session.located action).receiverAt id action = session.receiverAt id action := by
  cases action with
  | load table place name value =>
    obtain ⟨-, answer⟩ := siteAt_siteAt session admitted.1 place name
    show receiverAt (session.siteAt table place name).session id _ = _
    rw [receiverAt, receiverAt, answer]
  | _ => rfl

theorem Reachable.located (reached : session.Reachable) (admitted : session.Admits action) :
    (session.located action).Reachable := by
  cases action with
  | load table place name value => exact reached.after admitted.1
  | _ => exact reached

/-- The site of a read is backed, also if it was created for this very read. -/
theorem Reachable.backed_located (reached : session.Reachable) (admitted : session.Admits action)
    (id : SiteId) : ((session.located action).site id).Backed session.world := by
  have backed := (reached.located admitted).backed id
  rwa [world_located] at backed

theorem site_located_of_hasSite (created : session.HasSite id) (action : Action) :
    (session.located action).site id = session.site id := by
  cases action with
  | load table place name value => exact site_siteAt_of_hasSite created table place name
  | _ => rfl

/-- Otherwise the site is a new one. -/
theorem site_located_of_not_hasSite (fresh : ¬ session.HasSite id) (action : Action) :
    ∃ name limits, (session.located action).site id = .new name limits := by
  cases action with
  | load table place name value => exact site_siteAt_of_not_hasSite fresh table place name
  | _ => exact ⟨_, _, site_of_not_hasSite fresh⟩

/-- **An action reads at a site that is there.** -/
theorem Reachable.hasSite_of_receiverAt (reached : session.Reachable)
    (admitted : session.Admits action) (reads : session.receiverAt id action = some receiver) :
    (session.located action).HasSite id := by
  have here {at_ : SiteId} {value : Value} (there : session.HasSite at_)
      (reads : (if at_ = id then value.object? else none) = some receiver) :
      session.HasSite id := by
    split at reads
    · next same => exact same ▸ there
    · cases reads
  cases action with
  | load table place name value =>
    rw [receiverAt] at reads
    split at reads
    · next at_ answer =>
      split at reads
      · next same =>
        rw [← same]
        exact reached.listed.hasSite_of_answer answer
      · cases reads
    · cases reads
  | read | readInt | readFloat | readBool => exact here admitted.1 reads
  | _ => cases reads

theorem Reachable.hasSite_after_of_reads (reached : session.Reachable)
    (admitted : session.Admits action) (reads : session.receiverAt id action = some receiver) :
    (session.after action).HasSite id := by
  rw [← after_located admitted]
  exact hasSite_after (reached.hasSite_of_receiverAt admitted reads) action

/-- A read leaves the world alone. -/
theorem world_after_of_reads (reads : session.receiverAt id action = some receiver) :
    (session.after action).world = session.world := by
  cases action with
  | load table place name value => exact world_after_load session table place name value
  | read | readInt | readFloat | readBool => rfl
  | _ => cases reads

/-- **What a read makes of its site**, whether the site was there or was created for the read. -/
theorem Reachable.site_after_of_reads (reached : session.Reachable)
    (admitted : session.Admits action) (reads : session.receiverAt id action = some receiver) :
    (session.after action).site id =
      (((session.located action).site id).readObject session.world receiver).site := by
  have created := reached.hasSite_of_receiverAt admitted reads
  rw [← receiverAt_located admitted] at reads
  rw [← after_located admitted, Session.site_after_of_reads created reads, world_located]

theorem site_readWith_of_not_hasSite {α : Type} (fresh : ¬ session.HasSite id) (at_ : SiteId)
    (perform : World → Site → Read α) :
    (session.readWith at_ perform).session.site id = session.site id := by
  rw [site_readWith, if_neg fun here => fresh here.2]

/-! ## What new sites have in common

A site that is not there is spoken of as if it were a new one, and a read at a place may create the
site under another name and other limits. Whatever all new sites have in common is the same before
and after, as long as the action does not read at the site. -/

section Aspect

variable {α : Type} {aspect : Site → α} {blank : α}
  (new : ∀ name limits, aspect (.new name limits) = blank)

include new

theorem aspect_of_not_hasSite (fresh : ¬ session.HasSite id) :
    aspect (session.site id) = blank := by
  rw [site_of_not_hasSite fresh, new]

/-- Locating a site changes nothing of this. -/
theorem aspect_located (session : Session) (action : Action) (id : SiteId) :
    aspect ((session.located action).site id) = aspect (session.site id) := by
  by_cases created : session.HasSite id
  · rw [site_located_of_hasSite created]
  · obtain ⟨name, limits, made⟩ := site_located_of_not_hasSite created action
    rw [made, new, aspect_of_not_hasSite new created]

theorem aspect_after_of_not_hasSite (fresh : ¬ (session.located action).HasSite id) :
    aspect ((session.after action).site id) = aspect ((session.located action).site id) := by
  have before := aspect_of_not_hasSite new fresh
  cases action with
  | newSite name limits =>
    obtain ⟨name', limits', made⟩ := site_newSite_of_not_hasSite fresh name limits
    exact (congrArg aspect made).trans ((new name' limits').trans before.symm)
  | siteAt table place name =>
    obtain ⟨name', limits', made⟩ := site_siteAt_of_not_hasSite fresh table place name
    exact (congrArg aspect made).trans ((new name' limits').trans before.symm)
  | load table place name value =>
    rw [after, perform, Session.load]
    dsimp only
    split
    · exact congrArg aspect (site_readWith_of_not_hasSite fresh _ _)
    · rfl
  | setSuperclass c superclass =>
    rw [after, perform]
    split <;> rfl
  | read | readInt | readFloat | readBool =>
    have fresh : ¬ session.HasSite id := fresh
    simp only [after, perform, Session.read, Session.readInt, Session.readFloat, Session.readBool,
      located, site_readWith_of_not_hasSite fresh]
  | _ => rfl

/-- **An action that does not read at a site** changes nothing of this. -/
theorem aspect_after_of_idle (admitted : session.Admits action)
    (idle : session.receiverAt id action = none) :
    aspect ((session.after action).site id) = aspect (session.site id) := by
  rw [← aspect_located new session action id]
  by_cases created : (session.located action).HasSite id
  · rw [← receiverAt_located admitted] at idle
    rw [← after_located admitted, site_after_of_idle created idle]
  · exact aspect_after_of_not_hasSite new created

end Aspect

/-- Locating a site counts nothing. -/
theorem counters_located (session : Session) (action : Action) (id : SiteId) :
    ((session.located action).site id).counters = (session.site id).counters :=
  aspect_located (fun _ _ => rfl) session action id

/-- An action that does not read at a site counts nothing there. -/
theorem counters_after_of_idle (admitted : session.Admits action)
    (idle : session.receiverAt id action = none) :
    ((session.after action).site id).counters = (session.site id).counters :=
  aspect_after_of_idle (fun _ _ => rfl) admitted idle

/-- Locating a site leaves its visible state alone. -/
theorem profile_located (session : Session) (action : Action) (id : SiteId) :
    ((session.located action).site id).profile = (session.site id).profile :=
  aspect_located Site.profile_new session action id

/-- An action that does not read at a site leaves its visible state alone. -/
theorem profile_after_of_idle (admitted : session.Admits action)
    (idle : session.receiverAt id action = none) :
    ((session.after action).site id).profile = (session.site id).profile :=
  aspect_after_of_idle Site.profile_new admitted idle

end Session

end InlineCache
