import InlineCache.Proofs.Session.Places
import InlineCache.Proofs.Site.Replay

/-!
# The event log replays to the chain

Collect what a history has reported of a site, in order. Replaying these reports, from no nodes and
a list that may grow, gives the visible state of the site. Every position in them is in range when
its turn comes, and a report of a miss or of a stale node gives the index of the very node that the
walk has just tried.

## Main definitions

* `Event.report?`: the report of a call site that an event carries
* `Session.reportsOf`, `Session.reportsAt`: the reports of a site in an action, and in a history

## Main results

* `Reachable.reportsOf_of_reads`: the reports of a site in an action are those of its read
* `Reachable.replay_run`: the reports of a history replay
* `events_replay_to_chain`: they lead to the visible state, and indicate the nodes that were tried
-/

namespace InlineCache

/-- The report of a call site that the event carries, if it does. -/
def Event.report? : Event → Option SiteEvent
  | site _ report => some report
  | _ => none

theorem filterMap_report?_warnings {α : Type} (answer : Except ReadError α) :
    (warningsOf answer).filterMap Event.report? = [] := by
  cases answer with
  | ok _ => rfl
  | error error =>
    cases error with
    | invalidState cause => cases cause <;> rfl
    | _ => rfl

/-- The log of a read carries its reports. -/
theorem Read.filterMap_report?_log {α : Type} (read : Read α) :
    read.log.filterMap Event.report? = read.events := by
  have carried : (read.events.map (Event.site read.site.name)).filterMap Event.report? =
      read.events := by
    rw [List.filterMap_map]
    exact List.filterMap_some
  rw [log, List.filterMap_append, carried, filterMap_report?_warnings, List.append_nil]

namespace Session

variable {session : Session} {history : List Action} {id : SiteId} {action : Action}
  {receiver : ObjectId}

/-- What the action reports of the site, if it reads there from an object. -/
def reportsOf (session : Session) (id : SiteId) (action : Action) : List SiteEvent :=
  if (session.receiverAt id action).isSome then
    (session.perform action).events.filterMap Event.report?
  else []

/-- What a history reports of the site. -/
def reportsAt (session : Session) (id : SiteId) : List Action → List SiteEvent
  | [] => []
  | action :: rest => session.reportsOf id action ++ (session.after action).reportsAt id rest

/-! ## One action -/

theorem reportsOf_of_idle (idle : session.receiverAt id action = none) :
    session.reportsOf id action = [] := by
  simp [reportsOf, idle]

/-- The reports of a read at the site. -/
theorem report_readWith {α : Type} (session : Session) (perform : World → Site → Read α)
    {value : Value}
    (plain : ∀ world site, (perform world site).events = (Site.read world value site).events)
    {at_ : SiteId} (reads : (if at_ = id then value.object? else none) = some receiver) :
    (session.readWith at_ perform).events.filterMap Event.report? =
      ((session.site id).readObject session.world receiver).events := by
  split at reads
  · next same =>
    subst same
    rw [readWith]
    refine (Read.filterMap_report?_log _).trans ?_
    rw [plain, Site.read, reads]
  · cases reads

/-- **What an action reports of a site** is what its read there reports. -/
theorem reportsOf_of_reads (reads : session.receiverAt id action = some receiver) :
    session.reportsOf id action =
      (((session.located action).site id).readObject session.world receiver).events := by
  rw [reportsOf, reads, Option.isSome_some, if_pos rfl]
  cases action with
  | read at_ value =>
    exact report_readWith session (fun world site => site.read world value) (fun _ _ => rfl) reads
  | readInt at_ value =>
    exact report_readWith session (fun world site => site.readInt world value) (fun _ _ => rfl)
      reads
  | readFloat at_ value =>
    exact report_readWith session (fun world site => site.readFloat world value) (fun _ _ => rfl)
      reads
  | readBool at_ value =>
    exact report_readWith session (fun world site => site.readBool world value) (fun _ _ => rfl)
      reads
  | load table place name value =>
    rw [receiverAt] at reads
    rw [perform, load]
    cases answer : (session.siteAt table place name).answer with
    | error error =>
      rw [answer] at reads
      cases reads
    | ok at_ =>
      rw [answer] at reads
      have reported := report_readWith (session.siteAt table place name).session
        (fun world site => site.read world value) (fun _ _ => rfl) reads
      rw [world_siteAt] at reported
      exact reported
  | _ => cases reads

/-- **The reports of an action replay**: they lead from the visible state of a site before the
action to the one after it. -/
theorem Reachable.replay_after (reached : session.Reachable) (admitted : session.Admits action)
    (id : SiteId) :
    (session.site id).profile.replay (session.reportsOf id action) =
      some ((session.after action).site id).profile := by
  cases reads : session.receiverAt id action with
  | none =>
    rw [reportsOf_of_idle reads, profile_after_of_idle admitted reads]
    rfl
  | some receiver =>
    rw [reportsOf_of_reads reads, reached.site_after_of_reads admitted reads,
      ← profile_located session action id]
    exact Site.replay_readObject session.world receiver _

/-! ## Histories -/

/-- **The reports of a history replay.** -/
theorem Reachable.replay_run (reached : session.Reachable) (admitted : session.AdmitsAll history)
    (id : SiteId) :
    (session.site id).profile.replay (session.reportsAt id history) =
      some ((session.run history).site id).profile := by
  induction history generalizing session with
  | nil => rfl
  | cons action rest ih =>
    rw [reportsAt, Profile.replay_append, reached.replay_after admitted.1, Option.bind_some]
    exact ih (reached.after admitted.1) admitted.2

/-- **The event log replays to the chain.** From no nodes and a list that may grow, the reports of a
site in a history lead to its visible state: each position is in range, nodes are added at the end
with the kind of guard that their depth asks for, and a site turns generic with the nodes that it
has. Whatever action reads at the site next, its reports of misses and of stale nodes are about the
nodes that the walk tries in vain, in their order: each gives the index of its node in the list at
that moment. -/
theorem events_replay_to_chain (admitted : empty.AdmitsAll history) (id : SiteId) :
    let session := empty.run history
    (⟨[], .uninitialized⟩ : Profile).replay (empty.reportsAt id history) =
        some (session.site id).profile ∧
      ∀ action, session.Admits action → ∀ receiver,
        session.receiverAt id action = some receiver →
          let site := (session.located action).site id
          List.Forall₂ (Site.Indicates session.world receiver)
            (Site.passedOver session.world receiver site.nodes)
            (Site.indicated site.nodes (session.reportsOf id action)) := by
  intro session
  have initial : (empty.site id).profile = ⟨[], .uninitialized⟩ := by
    rw [site_of_not_hasSite (Nat.not_lt_zero _), Site.profile_new]
  refine ⟨initial ▸ reachable_empty.replay_run admitted id, ?_⟩
  intro action _ receiver reads site
  rw [reportsOf_of_reads reads]
  exact Site.indicated_readObject session.world receiver site

/-- A site reads from a module, from an instance of a class and from one of a class below it. The
nodes of the instances go stale when the upper class gets another attribute, and the site reads from
its instance again. -/
def logged : List Action :=
  [.newRegistry, .newClass ⟨0⟩ "Base" none, .newClass ⟨0⟩ "Derived" (some ⟨0⟩),
    .newInstance ⟨0⟩ ⟨0⟩, .newInstance ⟨0⟩ ⟨1⟩, .newModule ⟨0⟩ "m",
    .setAttribute ⟨0⟩ (.object (.cls ⟨0⟩)) "x" (.int 1),
    .setAttribute ⟨0⟩ (.object (.mod ⟨0⟩)) "x" (.int 2), .newSite "x" .standard,
    .read ⟨0⟩ (.object (.mod ⟨0⟩)), .read ⟨0⟩ (.object (.inst ⟨0⟩)),
    .read ⟨0⟩ (.object (.inst ⟨1⟩)), .setAttribute ⟨0⟩ (.object (.cls ⟨0⟩)) "y" (.int 3),
    .read ⟨0⟩ (.object (.inst ⟨0⟩))]

/-- That read has dropped the second node only, so the third one has moved up. The next read from
the lower instance finds it there, and drops it. -/
theorem events_replay_to_chain_of_logged :
    let session := empty.run logged
    let action : Action := .read ⟨0⟩ (.object (.inst ⟨1⟩))
    empty.reportsAt ⟨0⟩ logged =
        [.specialized 0 .layout 0, .missed 0, .specialized 1 .cls 1, .missed 0, .missed 1,
          .specialized 2 .chain 2, .missed 0, .pruned 1, .missed 1, .specialized 1 .cls 2] ∧
      (session.site ⟨0⟩).profile = ⟨[.layout, .chain, .cls], .uninitialized⟩ ∧
      session.reportsOf ⟨0⟩ action =
        [.missed 0, .pruned 1, .missed 1, .specialized 2 .chain 2] ∧
      List.Forall₂ (Site.Indicates session.world (.inst ⟨1⟩)) (session.site ⟨0⟩).nodes
        (Site.indicated (session.site ⟨0⟩).nodes (session.reportsOf ⟨0⟩ action)) := by
  intro session action
  have admitted : empty.AdmitsAll logged := by decide
  obtain ⟨replayed, indicated⟩ := events_replay_to_chain admitted ⟨0⟩
  have reports : empty.reportsAt ⟨0⟩ logged =
      [.specialized 0 .layout 0, .missed 0, .specialized 1 .cls 1, .missed 0, .missed 1,
        .specialized 2 .chain 2, .missed 0, .pruned 1, .missed 1, .specialized 1 .cls 2] := by
    decide
  refine ⟨reports, ?_, by decide, indicated action (by decide) (.inst ⟨1⟩) rfl⟩
  rw [reports] at replayed
  exact Option.some.inj (replayed.symm.trans rfl)

end Session

end InlineCache
