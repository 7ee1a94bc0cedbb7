import InlineCache.Proofs.Session.Tables

/-!
# The call sites of a table do not disturb each other

A read at a place answers as resolution by name does, with the limits of the table, unless the site
there reads another name; then it fails and leaves everything as it is. In any case it leaves the
sites of all other places alone. So whoever looks at one place sees the same site, with the same
nodes and counters, and gets the same answers there, whether or not there are reads at other places.

## Main definitions

* `Action.loadsElsewhere`: the action reads at another place
* `Session.repliesAt`: the replies to those actions of a history that concern a place
* `Session.LoadsAlone`: a read at a place answers by name, and concerns no other place
* `Session.SameAt`: two sessions have one object world, and one site at the place
* `Session.Undisturbed`: a history and the same history without reads elsewhere are alike there

## Main results

* `SameAt.after`, `SameAt.skip`: an action in both sessions, and a read elsewhere in one of them
* `call_sites_isolated`: the isolation of the call sites of a table
-/

namespace InlineCache

/-- The action reads at another place, of this table or another one. -/
def Action.loadsElsewhere (t : TableId) (place : Place) : Action → Bool
  | load u other _ _ => (u, other) ≠ (t, place)
  | _ => false

theorem Action.place?_of_loadsElsewhere {t : TableId} {place : Place} {action : Action}
    (elsewhere : action.loadsElsewhere t place = true) : action.place? ≠ some (t, place) := by
  cases action with
  | load u other name value => exact fun same => of_decide_eq_true elsewhere (Option.some.inj same)
  | _ => cases elsewhere

/-- The reply without the identity of the site that is handed out. -/
def Reply.anonymous : Reply → Reply
  | site answer => site (answer.map fun _ => default)
  | reply => reply

namespace Session

variable {session : Session} {t : TableId} {place : Place} {action : Action}

/-- The replies to those actions of a history that ask for the site at the place. -/
def repliesAt (session : Session) (t : TableId) (place : Place) : List Action → List Reply
  | [] => []
  | action :: rest =>
    let replies := (session.after action).repliesAt t place rest
    if action.place? = some (t, place) then
      (session.perform action).answer.anonymous :: replies
    else replies

/-! ## One read -/

/-- A read at a place answers by name, and concerns no other place. -/
structure LoadsAlone (session : Session) (t : TableId) (place : Place) (name : String)
    (value : Value) : Prop where
  /-- Where the site reads another name, the read fails and the session stays as it is. -/
  mismatch : ∀ id, session.siteAt? t place = some id → (session.site id).name ≠ name →
    session.perform (.load t place name value) =
      ⟨.read (.error (.invalidState
          (.siteReused place.code place.offset (session.site id).name name))),
        [.siteReused place.code place.offset (session.site id).name name], session⟩
  /-- Where there is no site, or one that reads the name, the answer is that of resolution by name
  with the limits of the table. -/
  resolves : (∀ id, session.siteAt? t place = some id → (session.site id).name = name) →
    (session.perform (.load t place name value)).answer = .read
      ((session.world.resolveValue (session.table t).limits.hierarchy value name).map
        Resolution.value)
  /-- The object world stays as it is. -/
  world : (session.after (.load t place name value)).world = session.world
  /-- Every other place has the site that it had, if any. -/
  entries : ∀ u other, (u, other) ≠ (t, place) →
    (session.after (.load t place name value)).siteAt? u other = session.siteAt? u other
  /-- Every other site stays as it is. -/
  sites : ∀ id, session.HasSite id → session.siteAt? t place ≠ some id →
    (session.after (.load t place name value)).site id = session.site id
  /-- A site that was created is the one at the place. -/
  created : ∀ id, (session.after (.load t place name value)).HasSite id → session.HasSite id ∨
    (session.after (.load t place name value)).siteAt? t place = some id

theorem Reachable.siteFor_backed (reached : session.Reachable) (t : TableId) (place : Place)
    (name : String) : (session.siteFor t place name).Backed session.world := by
  cases found : session.siteAt? t place with
  | some id => exact siteFor_eq found name ▸ reached.backed id
  | none =>
    rw [siteFor_of_free found]
    nofun

/-- **A read at a place** answers by name, and concerns no other place. -/
theorem Reachable.loadsAlone (reached : session.Reachable) (there : session.HasTable t)
    (place : Place) (name : String) {value : Value} (hv : session.world.HasValue value) :
    session.LoadsAlone t place name value where
  mismatch id found other := by
    have same := siteFor_eq found name
    rw [← same] at other ⊢
    rw [perform, load_of_mismatch other]
  resolves reads := by
    have named : (session.siteFor t place name).name = name := by
      cases found : session.siteAt? t place with
      | some id => rw [siteFor_eq found, reads id found]
      | none => rw [siteFor_of_free found]; rfl
    have answer := (reached.siteFor_backed t place name).answer_read reached.sound hv
    rw [named, Limited.siteFor reached.limited] at answer
    exact congrArg Reply.read ((answer_load_of_match named value).trans answer)
  world := world_after_load session t place name value
  entries u other elsewhere := by
    refine siteAt?_after_of_elsewhere (fun same => elsewhere ?_) fun clears => ?_
    · exact (Option.some.inj same).symm
    · cases clears
  sites id created elsewhere :=
    site_after_of_idle created (receiverAt_load_of_ne created elsewhere name value)
  created id has := by
    have asked := hasSite_of_siteAt there ((hasSite_load_iff session t place name value id).1 has)
    exact asked.imp_right (siteAt?_load session t place name value t place).trans

/-! ## Two sessions -/

/-- The sessions have one object world, the same limits, and one site at the place. -/
structure SameAt (t : TableId) (place : Place) (session other : Session) : Prop where
  /-- The objects are the same. -/
  world : other.world = session.world
  /-- There are as many tables, with the same limits. -/
  limits : other.allLimits = session.allLimits
  /-- The same site is at the place, if any. -/
  view : other.view t place = session.view t place

theorem SameAt.refl (t : TableId) (place : Place) (session : Session) :
    SameAt t place session session := ⟨rfl, rfl, rfl⟩

section SameAt

variable {other : Session} (same : SameAt t place session other)

include same

theorem SameAt.siteFor_eq (name : String) :
    other.siteFor t place name = session.siteFor t place name := by
  rw [siteFor, same.view, limits_table, same.limits, ← limits_table, siteFor]

/-- The site is classified alike. -/
theorem SameAt.classificationAt :
    other.classificationAt t place = session.classificationAt t place := by
  rw [classificationAt_eq, same.view, ← classificationAt_eq]

theorem SameAt.hasTable_iff (u : TableId) : other.HasTable u ↔ session.HasTable u := by
  rw [Session.hasTable_iff, same.limits, ← Session.hasTable_iff]

/-- Whatever is admitted in the one session is admitted in the other. -/
theorem SameAt.admits (admitted : session.Admits action) (unheld : action.readsHeld = false) :
    other.Admits action := by
  cases action with
  | siteAt | clearTable => exact (same.hasTable_iff _).2 admitted
  | load => exact ⟨(same.hasTable_iff _).2 admitted.1, same.world ▸ admitted.2⟩
  | read | readInt | readFloat | readBool => cases unheld
  | newRegistry | mint | publishRoot | newSite | newTable => trivial
  | _ => simpa only [Admits, same.world] using admitted

/-- What an action makes of the object world depends on the object world only. -/
theorem SameAt.world_after (action : Action) :
    (other.after action).world = (session.after action).world := by
  cases action with
  | siteAt table place name => rw [world_after_siteAt, world_after_siteAt, same.world]
  | load table place name value => rw [world_after_load, world_after_load, same.world]
  | setSuperclass c superclass =>
    rw [after, perform, same.world, after, perform]
    split
    · rfl
    · exact same.world
  | _ => simp only [after, perform, withWorld, withSpace, newSite, newTable, clearTable, read,
      readInt, readFloat, readBool, world_readWith, same.world]

/-- Whoever asks for the site at the place gets one reply in both sessions. -/
theorem SameAt.reply (asks : action.place? = some (t, place)) :
    (other.perform action).answer.anonymous = (session.perform action).answer.anonymous := by
  cases action with
  | siteAt u place' name =>
    obtain ⟨rfl, rfl⟩ := Prod.mk.inj (Option.some.inj asks)
    have found := same.siteFor_eq name
    refine congrArg Reply.site ?_
    by_cases named : (session.siteFor u place' name).name = name
    · obtain ⟨id, answer, -⟩ := siteAt_of_match named
      obtain ⟨id', answer', -⟩ := siteAt_of_match (found ▸ named)
      rw [answer, answer']
      rfl
    · rw [answer_siteAt_of_other named, answer_siteAt_of_other (found ▸ named), found]
  | load u place' name value =>
    obtain ⟨rfl, rfl⟩ := Prod.mk.inj (Option.some.inj asks)
    have found := same.siteFor_eq name
    refine congrArg Reply.read ?_
    by_cases named : (session.siteFor u place' name).name = name
    · rw [answer_load_of_match named, answer_load_of_match (found ▸ named), found, same.world]
    · rw [load_of_mismatch named, load_of_mismatch (found ▸ named), found]
  | _ => cases asks

/-- **The same action in both sessions** leaves the same site at the place. -/
theorem SameAt.after (reached : session.Reachable) (reached' : other.Reachable)
    (admitted : session.Admits action) (unheld : action.readsHeld = false) :
    SameAt t place (session.after action) (other.after action) := by
  have admitted' := same.admits admitted unheld
  refine ⟨same.world_after action, ?_, ?_⟩
  · rw [allLimits_after, allLimits_after, same.limits]
  · by_cases asks : action.place? = some (t, place)
    · cases action with
      | siteAt u place' name =>
        obtain ⟨rfl, rfl⟩ := Prod.mk.inj (Option.some.inj asks)
        have found := same.siteFor_eq name
        exact (view_siteAt admitted' place' name).trans
          (found ▸ (view_siteAt admitted place' name).symm)
      | load u place' name value =>
        obtain ⟨rfl, rfl⟩ := Prod.mk.inj (Option.some.inj asks)
        have found := same.siteFor_eq name
        show (other.load u place' name value).session.view u place' =
          (session.load u place' name value).session.view u place'
        by_cases named : (session.siteFor u place' name).name = name
        · rw [view_load_of_match reached.listed admitted.1 named,
            view_load_of_match reached'.listed admitted'.1 (found ▸ named), found, same.world]
        · rw [load_of_mismatch named, load_of_mismatch (found ▸ named)]
          exact same.view
      | _ => cases asks
    · by_cases clears : action = .clearTable t
      · subst clears
        exact (view_clearTable other t place).trans (view_clearTable session t place).symm
      · rw [view_after_of_elsewhere reached.apart reached.listed asks clears unheld,
          view_after_of_elsewhere reached'.apart reached'.listed asks clears unheld, same.view]

/-- **A read elsewhere** in one of the sessions leaves the site at the place alone. -/
theorem SameAt.skip (reached : session.Reachable)
    (elsewhere : action.loadsElsewhere t place = true) :
    SameAt t place (session.after action) other := by
  have asks := Action.place?_of_loadsElsewhere elsewhere
  cases action with
  | load u place' name value =>
    refine ⟨?_, ?_, ?_⟩
    · rw [world_after_load, same.world]
    · rw [allLimits_after, same.limits]
    · rw [view_after_of_elsewhere reached.apart reached.listed asks nofun rfl, same.view]
  | _ => cases elsewhere

end SameAt

/-! ## Histories -/

/-- The history, and the same history without some of the reads at other places, lead to the same
site at the place and to the same answers there. -/
structure Undisturbed (session other : Session) (t : TableId) (place : Place)
    (history thinned : List Action) : Prop where
  /-- The rest of the history is admitted as well. -/
  admitted : other.AdmitsAll thinned
  /-- The site at the place has the same nodes, terminal and counters. -/
  view : (other.run thinned).view t place = (session.run history).view t place
  /-- So it is classified alike. -/
  classification : (other.run thinned).classificationAt t place =
    (session.run history).classificationAt t place
  /-- Whoever reads at the place, or asks for the site there, gets the same replies. -/
  replies : other.repliesAt t place thinned = session.repliesAt t place history

theorem SameAt.undisturbed {other : Session} (same : SameAt t place session other)
    (reached : session.Reachable) (reached' : other.Reachable) {history : List Action}
    (admitted : session.AdmitsAll history)
    (unheld : ∀ action ∈ history, action.readsHeld = false) {keep : Action → Bool}
    (spares : ∀ action, keep action = false → action.loadsElsewhere t place = true) :
    session.Undisturbed other t place history (history.filter keep) := by
  induction history generalizing session other with
  | nil => exact ⟨trivial, same.view, same.classificationAt, rfl⟩
  | cons action rest ih =>
    obtain ⟨first, later⟩ := admitted
    have unheld_first := unheld action List.mem_cons_self
    have unheld_rest := fun a mem => unheld a (List.mem_cons_of_mem action mem)
    have reached_next := reached.after first
    -- a kept action is a step of both sessions, and one that is left out a step of the first alone
    cases kept : keep action with
    | true =>
      have first' := same.admits first unheld_first
      have next := same.after reached reached' first unheld_first
      have rest := ih next reached_next (reached'.after first') later unheld_rest
      rw [List.filter_cons_of_pos kept]
      refine ⟨⟨first', rest.admitted⟩, rest.view, rest.classification, ?_⟩
      rw [repliesAt, repliesAt, rest.replies]
      split
      · next asks => rw [same.reply asks]
      · rfl
    | false =>
      have elsewhere := spares action kept
      have rest := ih (same.skip reached elsewhere) reached_next reached' later unheld_rest
      rw [List.filter_cons_of_neg (by simp [kept])]
      refine ⟨rest.admitted, rest.view, rest.classification, ?_⟩
      rw [rest.replies, repliesAt, if_neg (Action.place?_of_loadsElsewhere elsewhere)]

/-! ## Isolation -/

/-- The place is free, and a site that is created there for the name has read nothing. -/
structure Rebinds (session later : Session) (t : TableId) (place : Place) (name : String) :
    Prop where
  /-- There is no site at the place. -/
  free : later.siteAt? t place = none
  /-- The sites that were created are as they were. -/
  sites : later.sites = session.sites
  /-- The site that is handed out was not there before. It is new, and at the place from now on. -/
  fresh : ∃ id, ¬ session.HasSite id ∧ (later.siteAt t place name).answer = .ok id ∧
    (later.siteAt t place name).session.siteAt? t place = some id ∧
    (later.siteAt t place name).session.site id = .new name (session.table t).limits

theorem rebinds_clearTable (there : session.HasTable t) (place : Place) (name : String) :
    session.Rebinds (session.after (.clearTable t)) t place name := by
  have free : (session.after (.clearTable t)).siteAt? t place = none :=
    siteAt?_clearTable_self session t place
  have there' : (session.after (.clearTable t)).HasTable t := by
    rw [hasTable_iff, allLimits_after, ← hasTable_iff]
    exact there
  refine ⟨free, rfl, ⟨session.sites.size⟩, Nat.lt_irrefl _, ?_, ?_, ?_⟩
  · simp only [siteAt, free]
    rfl
  · rw [siteAt?_siteAt, if_pos ⟨there', free, rfl⟩]
    rfl
  · rw [← limits_table_after there (.clearTable t)]
    exact site_siteAt_next free name

/-- **The call sites of a table are isolated**, in every reachable session. A read at a place
answers by name, or fails for a site of another name, and concerns no other place. Whatever a client
does through tables and to objects, leaving out reads at other places makes no difference to the
site at the place and to the answers there. When the table is cleared, every place may get a new
site for another name. -/
theorem call_sites_isolated (reached : session.Reachable) (t : TableId) (place : Place) :
    (session.HasTable t → ∀ name value, session.world.HasValue value →
      session.LoadsAlone t place name value) ∧
    (∀ history, session.AdmitsAll history → (∀ action ∈ history, action.readsHeld = false) →
      ∀ keep : Action → Bool,
        (∀ action, keep action = false → action.loadsElsewhere t place = true) →
          session.Undisturbed session t place history (history.filter keep)) ∧
    (session.HasTable t → ∀ name,
      session.Rebinds (session.after (.clearTable t)) t place name) := by
  refine ⟨fun there name value hv => reached.loadsAlone there place name hv,
    fun history admitted unheld keep spares => ?_,
    fun there name => rebinds_clearTable there place name⟩
  exact (SameAt.refl t place session).undisturbed reached reached admitted unheld spares

/-- A table with a site at one place, and an object that has its attribute from its class. -/
def crossing : List Action :=
  [.newRegistry, .newClass ⟨0⟩ "Road" none, .newInstance ⟨0⟩ ⟨0⟩,
    .setAttribute ⟨0⟩ (.object (.cls ⟨0⟩)) "lanes" (.int 2), .newTable .standard,
    .load ⟨0⟩ ⟨7, 4⟩ "lanes" (.object (.inst ⟨0⟩))]

/-- Reads at the place and at the one before it, some of them for another name, while the class
changes. -/
def traffic : List Action :=
  [.load ⟨0⟩ ⟨7, 0⟩ "lanes" (.object (.inst ⟨0⟩)), .load ⟨0⟩ ⟨7, 4⟩ "width" (.object (.inst ⟨0⟩)),
    .setAttribute ⟨0⟩ (.object (.cls ⟨0⟩)) "width" (.int 7),
    .load ⟨0⟩ ⟨7, 4⟩ "lanes" (.object (.cls ⟨0⟩)), .siteAt ⟨0⟩ ⟨7, 0⟩ "width",
    .load ⟨0⟩ ⟨7, 0⟩ "lanes" (.object (.inst ⟨0⟩))]

/-- The site that is there is not read for another name until the table is cleared. The site before
it is the same, and answers alike, without the reads at the first one. -/
theorem call_sites_isolated_of_traffic :
    let session := empty.run crossing
    let thinned := traffic.filter fun action => !action.loadsElsewhere ⟨0⟩ ⟨7, 0⟩
    (session.perform (.load ⟨0⟩ ⟨7, 4⟩ "width" (.object (.inst ⟨0⟩)))).answer =
        .read (.error (.invalidState (.siteReused 7 4 "lanes" "width"))) ∧
      (∃ id, id ≠ ⟨0⟩ ∧
        ((session.after (.clearTable ⟨0⟩)).siteAt ⟨0⟩ ⟨7, 4⟩ "width").answer = .ok id) ∧
      thinned.length = 4 ∧
      session.repliesAt ⟨0⟩ ⟨7, 0⟩ thinned = session.repliesAt ⟨0⟩ ⟨7, 0⟩ traffic := by
  intro session thinned
  have reached : session.Reachable := ⟨crossing, by decide, rfl⟩
  obtain ⟨alone, -, rebinds⟩ := call_sites_isolated reached ⟨0⟩ ⟨7, 4⟩
  obtain ⟨-, undisturbed, -⟩ := call_sites_isolated reached ⟨0⟩ ⟨7, 0⟩
  have there : session.HasTable ⟨0⟩ := by decide
  have object : session.world.HasValue (.object (.inst ⟨0⟩)) := by decide
  have spares (action : Action)
      (left : (!action.loadsElsewhere ⟨0⟩ ⟨7, 0⟩) = false) :
      action.loadsElsewhere ⟨0⟩ ⟨7, 0⟩ = true := by simpa using left
  refine ⟨?_, ?_, by decide, (undisturbed traffic (by decide) (by decide) _ spares).replies⟩
  · rw [(alone there "width" _ object).mismatch ⟨0⟩ (by decide) (by decide)]
    rfl
  · obtain ⟨id, fresh, answer, -⟩ := (rebinds there "width").fresh
    refine ⟨id, ?_, answer⟩
    rintro rfl
    exact fresh (by decide)

end Session

end InlineCache
