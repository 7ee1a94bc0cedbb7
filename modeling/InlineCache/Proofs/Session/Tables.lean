import InlineCache.Proofs.Session.Places
import InlineCache.Proofs.Site.Reading

/-!
# What is at a place of a table

A table enters the site that it creates for a place, and forgets all of its sites at once; nothing
else moves an entry. Since every site is created for one entry, no site is at two places. So what an
action does to the site at a place can be said without the identity of the site: it depends on the
site that is there, on the limits of the table and on the object world.

## Main definitions

* `Action.place?`: the place at which an action asks for its call site
* `Session.view`: the site at a place
* `Session.siteFor`: the site at a place, or the one that would be created there

## Main results

* `siteAt?_after_eq_some`: where an entry comes from
* `Reachable.apart`: no site of a reachable session is at two places
* `Reachable.limited`: the site at a place has the limits of its table
* `answer_load`, `view_load`: what a read at a place answers, and what it makes of the site there
* `view_after_of_elsewhere`: an action that asks for the site of no other place leaves it alone
-/

namespace InlineCache

/-- The table and the place at which the action asks for a call site, if it does. -/
def Action.place? : Action → Option (TableId × Place)
  | siteAt table place _ => some (table, place)
  | load table place _ _ => some (table, place)
  | _ => none

/-- The action reads at a call site that its client holds. -/
def Action.readsHeld : Action → Bool
  | read _ _ | readInt _ _ | readFloat _ _ | readBool _ _ => true
  | _ => false

namespace Session

variable {session : Session} {t u : TableId} {place other : Place} {name : String} {id : SiteId}
  {action : Action}

/-! ## Entries -/

theorem siteAt?_congr {later : Session} (tables : later.tables = session.tables) (t : TableId)
    (place : Place) : later.siteAt? t place = session.siteAt? t place := by
  simp only [siteAt?, table, tables]

/-- A table that was not created has no site anywhere. -/
theorem siteAt?_of_not_hasTable (absent : ¬ session.HasTable t) (place : Place) :
    session.siteAt? t place = none := by
  have out : session.tables.size ≤ t.index := Nat.le_of_not_lt absent
  simp only [siteAt?, table, Array.getD_eq_getD_getElem?, Array.getElem?_eq_none out]
  rfl

theorem siteAt?_newTable (session : Session) (limits : Limits) (t : TableId) (place : Place) :
    (session.newTable limits).2.siteAt? t place = session.siteAt? t place := by
  by_cases last : t.index = session.tables.size
  · have absent : ¬ session.HasTable t := by simp [HasTable, last]
    rw [siteAt?_of_not_hasTable absent]
    simp [siteAt?, newTable, table, last]
  · simp [siteAt?, newTable, table, Array.getElem?_push, last]

/-- A table forgets the site at every place. -/
theorem siteAt?_clearTable_self (session : Session) (t : TableId) (place : Place) :
    (session.clearTable t).siteAt? t place = none := by
  rw [siteAt?, table_of_modify (tables_clearTable session t)]
  split
  · exact SiteTable.find?_clear _ _
  · next absent => exact siteAt?_of_not_hasTable (fun there => absent ⟨rfl, there⟩) place

theorem siteAt?_clearTable_of_ne (ne : u ≠ t) (place : Place) :
    (session.clearTable t).siteAt? u place = session.siteAt? u place := by
  rw [siteAt?, table_of_modify (tables_clearTable session t), if_neg fun h => ne h.1, siteAt?]

theorem siteAt?_siteAt (session : Session) (t : TableId) (place : Place) (name : String)
    (u : TableId) (other : Place) : (session.siteAt t place name).session.siteAt? u other =
      if session.HasTable t ∧ session.siteAt? t place = none ∧ (u, other) = (t, place) then
        some ⟨session.sites.size⟩
      else session.siteAt? u other := by
  cases found : session.siteAt? t place with
  | some id => rw [session_siteAt_of_found found, if_neg (by simp)]
  | none =>
    rw [siteAt?, table_of_modify (tables_siteAt_of_free found name)]
    by_cases here : u = t ∧ session.HasTable u
    · obtain ⟨rfl, there⟩ := here
      rw [if_pos ⟨rfl, there⟩]
      by_cases same : other = place
      · rw [same, if_pos ⟨there, rfl, rfl⟩]
        exact SiteTable.find?_insert_self _ _ _
      · rw [if_neg fun h => same (congrArg Prod.snd h.2.2)]
        exact SiteTable.find?_insert_of_ne same _ _
    · rw [if_neg here, if_neg, siteAt?]
      rintro ⟨there, -, rfl, rfl⟩
      exact here ⟨rfl, there⟩

theorem siteAt?_load (session : Session) (t : TableId) (place : Place) (name : String)
    (value : Value) (u : TableId) (other : Place) :
    (session.load t place name value).session.siteAt? u other =
      (session.siteAt t place name).session.siteAt? u other := by
  unfold load
  dsimp only
  split
  · exact siteAt?_congr rfl u other
  · rfl

/-- **Where an entry comes from**: it was there, or the action asked for a site at the place and the
next site was created for it. -/
theorem siteAt?_after_eq_some (found : (session.after action).siteAt? t place = some id) :
    session.siteAt? t place = some id ∨
      action.place? = some (t, place) ∧ id = ⟨session.sites.size⟩ := by
  have asked {u : TableId} {other : Place} {name : String}
      (found : (session.siteAt u other name).session.siteAt? t place = some id) :
      session.siteAt? t place = some id ∨
        some (u, other) = some (t, place) ∧ id = ⟨session.sites.size⟩ := by
    rw [siteAt?_siteAt] at found
    split at found
    · next enters => exact .inr ⟨congrArg some enters.2.2.symm, (Option.some.inj found).symm⟩
    · exact .inl found
  cases action with
  | newTable limits => exact .inl ((siteAt?_newTable session limits t place).symm.trans found)
  | clearTable u =>
    by_cases same : t = u
    · subst same
      exact absurd ((siteAt?_clearTable_self session t place).symm.trans found) nofun
    · exact .inl ((siteAt?_clearTable_of_ne same place).symm.trans found)
  | siteAt u other name => exact asked found
  | load u other name value =>
    exact asked ((siteAt?_load session u other name value t place).symm.trans found)
  | setSuperclass c superclass =>
    rw [after, perform] at found
    split at found <;> exact .inl found
  | _ => exact .inl found

/-- An entry stays while no site is asked for at its place and the table is not cleared. -/
theorem siteAt?_after_of_elsewhere (elsewhere : action.place? ≠ some (t, place))
    (kept : action ≠ .clearTable t) :
    (session.after action).siteAt? t place = session.siteAt? t place := by
  have asked {u : TableId} {other : Place} (name : String)
      (elsewhere : some (u, other) ≠ some (t, place)) :
      (session.siteAt u other name).session.siteAt? t place = session.siteAt? t place := by
    rw [siteAt?_siteAt, if_neg]
    rintro ⟨-, -, same⟩
    exact elsewhere (congrArg some same.symm)
  cases action with
  | newTable limits => exact siteAt?_newTable session limits t place
  | clearTable u =>
    exact siteAt?_clearTable_of_ne (fun same => kept (congrArg Action.clearTable same.symm)) place
  | siteAt u other name => exact asked name elsewhere
  | load u other name value =>
    exact (siteAt?_load session u other name value t place).trans (asked name elsewhere)
  | setSuperclass c superclass =>
    rw [after, perform]
    split <;> rfl
  | _ => rfl

/-! ## No site is at two places -/

/-- A site is at one place of one table at most. -/
def Apart (session : Session) : Prop :=
  ∀ {t place u other id}, session.siteAt? t place = some id → session.siteAt? u other = some id →
    (u, other) = (t, place)

theorem Listed.hasSite (listed : session.Listed) (found : session.siteAt? t place = some id) :
    session.HasSite id :=
  listed t id (mem_sites_of_siteAt? found)

/-- A site that is at a place is not the next one. -/
theorem Listed.ne_next (listed : session.Listed) (found : session.siteAt? t place = some id) :
    id ≠ ⟨session.sites.size⟩ := by
  rintro rfl
  exact Nat.lt_irrefl _ (listed.hasSite found)

theorem Apart.after (apart : session.Apart) (listed : session.Listed) (action : Action) :
    (session.after action).Apart := by
  intro t place u other id first second
  -- an old entry and a new one differ, since the next site is at no place yet
  rcases siteAt?_after_eq_some first with here | ⟨asks, next⟩ <;>
    rcases siteAt?_after_eq_some second with there | ⟨asks', next'⟩
  · exact apart here there
  · exact absurd next' (listed.ne_next here)
  · exact absurd next (listed.ne_next there)
  · exact Option.some.inj (asks'.symm.trans asks)

/-- **No site of a reachable session is at two places.** -/
theorem Reachable.apart (reached : session.Reachable) : session.Apart := by
  refine Reachable.induction (motive := Apart) ?_
    (fun _ action reached apart _ => apart.after reached.listed action) reached
  intro t place u other id found
  cases found

/-! ## Limits -/

/-- The limits of all tables. -/
def allLimits (session : Session) : Array Limits := session.tables.map SiteTable.limits

theorem limits_table (session : Session) (t : TableId) :
    (session.table t).limits = session.allLimits.getD t.index (default : SiteTable).limits := by
  simp only [table, allLimits, Array.getD_eq_getD_getElem?, Array.getElem?_map]
  cases session.tables[t.index]? <;> rfl

theorem hasTable_iff (session : Session) (t : TableId) :
    session.HasTable t ↔ t.index < session.allLimits.size := by
  rw [HasTable, allLimits, Array.size_map]

theorem allLimits_of_modify {later : Session} {change : SiteTable → SiteTable}
    (tables : later.tables = session.tables.modify t.index change)
    (same : ∀ table, (change table).limits = table.limits) :
    later.allLimits = session.allLimits := by
  refine Array.ext_getElem? fun i => ?_
  simp only [allLimits, tables, Array.getElem?_map, Array.getElem?_modify]
  split
  · cases session.tables[i]? with
    | none => rfl
    | some table => exact congrArg some (same table)
  · rfl

theorem allLimits_siteAt (session : Session) (t : TableId) (place : Place) (name : String) :
    (session.siteAt t place name).session.allLimits = session.allLimits := by
  cases found : session.siteAt? t place with
  | some id => rw [session_siteAt_of_found found]
  | none => exact allLimits_of_modify (tables_siteAt_of_free found name) fun _ => rfl

/-- Only a new table adds limits. -/
theorem allLimits_after (session : Session) (action : Action) :
    (session.after action).allLimits =
      match action with
      | .newTable limits => session.allLimits.push limits
      | _ => session.allLimits := by
  cases action with
  | newTable limits => exact Array.map_push ..
  | clearTable t => exact allLimits_of_modify (tables_clearTable session t) fun _ => rfl
  | siteAt t place name => exact allLimits_siteAt session t place name
  | load t place name value =>
    refine Eq.trans ?_ (allLimits_siteAt session t place name)
    rw [after, perform, load]
    dsimp only
    split <;> rfl
  | setSuperclass c superclass =>
    rw [after, perform]
    split <;> rfl
  | _ => rfl

/-! ## The site at a place -/

/-- The site at a place, if the table has one there. -/
def view (session : Session) (t : TableId) (place : Place) : Option Site :=
  (session.siteAt? t place).map session.site

/-- The site that an action gets which asks for a site at the place: the one that is there, or a new
one for the name. -/
def siteFor (session : Session) (t : TableId) (place : Place) (name : String) : Site :=
  (session.view t place).getD (.new name (session.table t).limits)

theorem view_eq_some (found : session.siteAt? t place = some id) :
    session.view t place = some (session.site id) := by
  rw [view, found, Option.map_some]

theorem classificationAt_eq (session : Session) (t : TableId) (place : Place) :
    session.classificationAt t place =
      ((session.view t place).map Site.classification).getD .uninitialized := by
  rw [classificationAt, view]
  cases session.siteAt? t place <;> rfl

theorem siteFor_eq (found : session.siteAt? t place = some id) (name : String) :
    session.siteFor t place name = session.site id := by
  rw [siteFor, view_eq_some found, Option.getD_some]

theorem siteFor_of_free (free : session.siteAt? t place = none) (name : String) :
    session.siteFor t place name = .new name (session.table t).limits := by
  rw [siteFor, view, free, Option.map_none, Option.getD_none]

/-- A site that was created for a place is the one there. -/
theorem hasSite_of_siteAt (there : session.HasTable t)
    (has : (session.siteAt t place name).session.HasSite id) :
    session.HasSite id ∨ (session.siteAt t place name).session.siteAt? t place = some id := by
  cases found : session.siteAt? t place with
  | some at_ =>
    rw [session_siteAt_of_found found] at has
    exact .inl has
  | none =>
    have has : id.index < session.sites.size + 1 := by
      simpa [siteAt, found, newSite, HasSite] using has
    rcases Nat.lt_succ_iff_lt_or_eq.1 has with old | last
    · exact .inl old
    · rw [siteAt?_siteAt, if_pos ⟨there, found, rfl⟩, ← last]
      exact .inr rfl

theorem view_siteAt (there : session.HasTable t) (place : Place) (name : String) :
    (session.siteAt t place name).session.view t place =
      some (session.siteFor t place name) := by
  cases found : session.siteAt? t place with
  | some id => rw [session_siteAt_of_found found, view_eq_some found, siteFor_eq found]
  | none =>
    have entered : (session.siteAt t place name).session.siteAt? t place =
        some ⟨session.sites.size⟩ := by
      rw [siteAt?_siteAt, if_pos ⟨there, found, rfl⟩]
    rw [view_eq_some entered, site_siteAt_next found, siteFor_of_free found]

/-- The site that is handed out is the one at the place, if it reads the name. -/
theorem answer_siteAt_eq_ok (answer : (session.siteAt t place name).answer = .ok id) :
    session.siteAt? t place = some id ∧ (session.site id).name = name ∨
      session.siteAt? t place = none ∧ id = ⟨session.sites.size⟩ := by
  cases found : session.siteAt? t place with
  | none =>
    simp only [siteAt, found] at answer
    cases answer
    exact .inr ⟨rfl, rfl⟩
  | some at_ =>
    simp only [siteAt, found] at answer
    split at answer
    · next same =>
      cases answer
      exact .inl ⟨rfl, same⟩
    · cases answer

/-- Asking for a site goes wrong only where the site at the place reads another name. -/
theorem siteAt_of_match (named : (session.siteFor t place name).name = name) :
    ∃ id, (session.siteAt t place name).answer = .ok id ∧
      (session.siteAt t place name).session.site id = session.siteFor t place name := by
  cases found : session.siteAt? t place with
  | some id =>
    rw [siteFor_eq found] at named ⊢
    refine ⟨id, ?_, by rw [session_siteAt_of_found found]⟩
    simp only [siteAt, found, named, if_true]
  | none =>
    refine ⟨⟨session.sites.size⟩, ?_, ?_⟩
    · simp only [siteAt, found]
      rfl
    · rw [site_siteAt_next found, siteFor_of_free found]

/-- **A read at a place** answers as the site there, if it reads the name. -/
theorem answer_load_of_match (named : (session.siteFor t place name).name = name)
    (value : Value) : (session.load t place name value).answer =
      ((session.siteFor t place name).read session.world value).answer := by
  obtain ⟨id, answer, same⟩ := siteAt_of_match named
  rw [load, answer, ← same]
  exact congrArg (fun world => (Site.read world value _).answer) (world_siteAt ..)

/-- It makes of the site there what a read makes of it. -/
theorem view_load_of_match (listed : session.Listed) (there : session.HasTable t)
    (named : (session.siteFor t place name).name = name) (value : Value) :
    (session.load t place name value).session.view t place =
      some ((session.siteFor t place name).read session.world value).site := by
  obtain ⟨id, answer, same⟩ := siteAt_of_match named
  have created := listed.hasSite_of_answer answer
  have entry : (session.siteAt t place name).session.siteAt? t place = some id := by
    rcases answer_siteAt_eq_ok answer with ⟨found, -⟩ | ⟨free, rfl⟩
    · rw [session_siteAt_of_found found, found]
    · rw [siteAt?_siteAt, if_pos ⟨there, free, rfl⟩]
  have found : (session.load t place name value).session.siteAt? t place = some id := by
    rw [siteAt?_load, entry]
  rw [view_eq_some found, load, answer]
  dsimp only
  rw [read, site_readWith, if_pos ⟨rfl, created⟩, same, world_siteAt]

/-- Where the site reads another name, there is one at the place already. -/
theorem exists_of_mismatch (other : (session.siteFor t place name).name ≠ name) :
    ∃ id, session.siteAt? t place = some id ∧ session.siteFor t place name = session.site id := by
  cases found : session.siteAt? t place with
  | some id => exact ⟨id, rfl, siteFor_eq found name⟩
  | none => exact absurd (congrArg Site.name (siteFor_of_free found name)) other

theorem answer_siteAt_of_other (other : (session.siteFor t place name).name ≠ name) :
    (session.siteAt t place name).answer = .error (.invalidState
      (.siteReused place.code place.offset (session.siteFor t place name).name name)) := by
  obtain ⟨id, found, same⟩ := exists_of_mismatch other
  rw [same] at other ⊢
  exact answer_siteAt_of_mismatch found other

/-- **A read for another name** than that of the site at the place fails, and leaves the session as
it is. -/
theorem load_of_mismatch (other : (session.siteFor t place name).name ≠ name) (value : Value) :
    let cached := (session.siteFor t place name).name
    session.load t place name value =
      ⟨.error (.invalidState (.siteReused place.code place.offset cached name)),
        [.siteReused place.code place.offset cached name], session⟩ := by
  obtain ⟨id, found, same⟩ := exists_of_mismatch other
  rw [same] at other ⊢
  simp only [load, siteAt, found, other, if_false]
  rfl

theorem view_of_mismatch (other : (session.siteFor t place name).name ≠ name) :
    session.view t place = some (session.siteFor t place name) := by
  obtain ⟨id, found, same⟩ := exists_of_mismatch other
  rw [view_eq_some found, same]

/-! ## Elsewhere -/

/-- A read at a place reads at no other site that is there. -/
theorem receiverAt_load_of_ne (created : session.HasSite id)
    (ne : session.siteAt? t place ≠ some id) (name : String) (value : Value) :
    session.receiverAt id (.load t place name value) = none := by
  rw [receiverAt]
  split
  · next at_ answer =>
    rw [if_neg]
    rintro rfl
    rcases answer_siteAt_eq_ok answer with ⟨there, -⟩ | ⟨-, rfl⟩
    · exact ne there
    · exact Nat.lt_irrefl _ created
  · rfl

/-- An action that asks for the site of another place reads at another site. -/
theorem receiverAt_of_elsewhere (apart : session.Apart) (listed : session.Listed)
    (found : session.siteAt? t place = some id) (elsewhere : action.place? ≠ some (t, place))
    (unheld : action.readsHeld = false) : session.receiverAt id action = none := by
  cases action with
  | read | readInt | readFloat | readBool => cases unheld
  | load u other name value =>
    refine receiverAt_load_of_ne (listed.hasSite found) (fun there => ?_) name value
    exact elsewhere (congrArg some (apart found there))
  | _ => rfl

/-- **An action elsewhere** leaves the site at a place alone. -/
theorem view_after_of_elsewhere (apart : session.Apart) (listed : session.Listed)
    (elsewhere : action.place? ≠ some (t, place)) (kept : action ≠ .clearTable t)
    (unheld : action.readsHeld = false) :
    (session.after action).view t place = session.view t place := by
  rw [view, siteAt?_after_of_elsewhere elsewhere kept, view]
  cases found : session.siteAt? t place with
  | none => rfl
  | some id =>
    have idle := receiverAt_of_elsewhere apart listed found elsewhere unheld
    exact congrArg some (site_after_of_idle (listed.hasSite found) idle)

/-- A table that is cleared has no site at any place. -/
theorem view_clearTable (session : Session) (t : TableId) (place : Place) :
    (session.clearTable t).view t place = none := by
  rw [view, siteAt?_clearTable_self, Option.map_none]

/-! ## The sites of a table have its limits -/

/-- The sites at the places of a table have the limits of the table. -/
def Limited (session : Session) : Prop :=
  ∀ {t place site}, session.view t place = some site → site.limits = (session.table t).limits

theorem Limited.siteFor (limited : session.Limited) (t : TableId) (place : Place) (name : String) :
    (session.siteFor t place name).limits = (session.table t).limits := by
  rw [Session.siteFor]
  cases found : session.view t place with
  | some site => exact limited found
  | none => rfl

/-- A table keeps its limits. -/
theorem limits_table_after (there : session.HasTable t) (action : Action) :
    ((session.after action).table t).limits = (session.table t).limits := by
  rw [hasTable_iff] at there
  rw [limits_table, limits_table, allLimits_after]
  cases action with
  | newTable limits => simp [Array.getElem?_push, Nat.ne_of_lt there]
  | _ => rfl

theorem limits_site_after (created : session.HasSite id) (action : Action) :
    ((session.after action).site id).limits = (session.site id).limits := by
  rw [site_after created]
  split
  · exact Site.limits_readObject ..
  · rfl

theorem Limited.after (limited : session.Limited) (listed : session.Listed)
    (admitted : session.Admits action) : (session.after action).Limited := by
  intro t place site seen
  by_cases asks : action.place? = some (t, place)
  · -- the site may be new, so it is spoken of as the one that the action gets
    cases action with
    | siteAt u other name =>
      obtain ⟨rfl, rfl⟩ := Prod.mk.inj (Option.some.inj asks)
      have found := view_siteAt admitted other name
      rw [limits_table_after admitted, ← limited.siteFor u other name]
      exact congrArg Site.limits (Option.some.inj (seen.symm.trans found))
    | load u other name value =>
      obtain ⟨rfl, rfl⟩ := Prod.mk.inj (Option.some.inj asks)
      rw [limits_table_after admitted.1, ← limited.siteFor u other name]
      by_cases named : (session.siteFor u other name).name = name
      · have read := view_load_of_match listed admitted.1 named value
        rw [Option.some.inj (seen.symm.trans read), Site.site_read]
        split
        · exact Site.limits_readObject ..
        · rfl
      · have kept : (session.after (.load u other name value)).view u other = _ :=
          (congrArg (fun o => o.session.view u other) (load_of_mismatch named value)).trans
            (view_of_mismatch named)
        exact congrArg Site.limits (Option.some.inj (seen.symm.trans kept))
    | _ => cases asks
  · obtain ⟨id, found, rfl⟩ := Option.map_eq_some_iff.1 seen
    rcases siteAt?_after_eq_some found with here | ⟨asked, -⟩
    · have there : session.HasTable t := by
        by_contra absent
        exact absurd ((siteAt?_of_not_hasTable absent place).symm.trans here) nofun
      rw [limits_table_after there, limits_site_after (listed.hasSite here)]
      exact limited (view_eq_some here)
    · exact absurd asked asks

/-- **The site at a place has the limits of its table**, in every reachable session. -/
theorem Reachable.limited (reached : session.Reachable) : session.Limited := by
  refine Reachable.induction (motive := Limited) ?_
    (fun _ _ reached limited admitted => limited.after reached.listed admitted) reached
  intro t place site seen
  cases seen

end Session

end InlineCache
