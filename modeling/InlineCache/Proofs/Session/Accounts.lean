import InlineCache.Proofs.Session.Places
import InlineCache.Proofs.Site.Reading

/-!
# The accounts of a call site

Every read from an object is counted once as a read, and once by how it ended: a node answered it, a
node was added for it, or the name was resolved at a site that is generic by then. Only a read that
fails at the end of a chain with room is not counted a second time. The nodes of a site are those
that were added and not dropped, and a site is generic if it has turned generic once.

## Main definitions

* `Counters.answered`: the reads that were counted by how they ended
* `Site.failsAtEnd`: the read fails at the end of a chain that has room
* `Session.tally`: how many actions of a history are of a sort

## Main results

* `Site.entered_readObject`: how one read is counted
* `Reachable.balanced`: nodes and terminal of a site, by its counters
* `Reachable.answered_run`: the counts of a history
* `counters_account`: the accounts of every site balance
-/

namespace InlineCache

/-- The reads that were counted by how they ended. -/
def Counters.answered (c : Counters) : Nat := c.hits + c.specializations + c.genericReads

/-- `read` reads were counted, `failed` of them not by how they ended; every other one was counted
either as a hit or as a specialization or as a generic read. -/
structure Counters.Entered (before after : Counters) (read failed : Nat) : Prop where
  reads : after.reads = before.reads + read
  ended : ∃ hit specialized generic, hit + specialized + generic + failed = read ∧
    after.hits = before.hits + hit ∧
    after.specializations = before.specializations + specialized ∧
    after.genericReads = before.genericReads + generic

theorem Counters.Entered.answered {before after : Counters} {read failed : Nat}
    (entered : before.Entered after read failed) :
    after.answered + failed = before.answered + read := by
  obtain ⟨hit, specialized, generic, all, hits, specializations, genericReads⟩ := entered.ended
  simp only [Counters.answered]
  omega

namespace Site

variable {world : World} {receiver : ObjectId} {site : Site}

/-! ## One read -/

/-- The read fails at the end of a chain that has room for another node. -/
def failsAtEnd (world : World) (receiver : ObjectId) (site : Site) : Bool :=
  match (walk world receiver 0 site.nodes).ending with
  | .fellOff position =>
    site.terminal == .uninitialized && decide (position < site.limits.chain) &&
      !(site.readObject world receiver).answer.isOk
  | _ => false

theorem failsAtEnd_iff :
    site.failsAtEnd world receiver = true ↔
      site.FallsOff world receiver ∧ site.terminal = .uninitialized ∧
        (site.passed world receiver).nodes.length < site.limits.chain ∧
        (site.readObject world receiver).answer.isOk = false := by
  unfold failsAtEnd FallsOff
  cases ended : (walk world receiver 0 site.nodes).ending with
  | hit value => simp
  | failed error => simp
  | fellOff position =>
    have counted : (site.passed world receiver).nodes.length = position := by
      simpa [passed] using (walk_position ended).symm
    simp [counted, and_assoc]

/-- No backed node fails. -/
theorem Backed.ending_ne_failed (backed : site.Backed world) (receiver : ObjectId)
    (error : ReadError) : (walk world receiver 0 site.nodes).ending ≠ .failed error := by
  intro failed
  rcases walk_stops world receiver 0 site.nodes with
    ⟨position, fell⟩ | ⟨node, mem, ⟨value, -, hit⟩ | ⟨error', probed, -⟩⟩
  · cases failed.symm.trans fell
  · cases failed.symm.trans hit
  · obtain ⟨probe, sane⟩ := (backed node mem).probe_ok receiver
    cases probed.symm.trans sane

/-- **How a read is counted**: once as a read, and once by how it ended, unless it fails at the end
of a chain with room. -/
theorem Backed.entered_readObject (backed : site.Backed world) (sound : world.Sound)
    (hr : world.HasObject receiver) :
    site.counters.Entered (site.readObject world receiver).site.counters 1
      (site.failsAtEnd world receiver).toNat := by
  have answer := backed.answer_readObject sound hr
  cases readObject_cases world receiver site with
  | hit value ended eq =>
    have no : site.failsAtEnd world receiver = false := by simp [failsAtEnd, ended]
    rw [eq, no]
    exact ⟨rfl, 1, 0, 0, rfl, rfl, rfl, rfl⟩
  | failed error ended eq => exact absurd ended (backed.ending_ne_failed receiver error)
  | generic fell was eq =>
    have no : site.failsAtEnd world receiver = false := by
      rw [← Bool.not_eq_true, failsAtEnd_iff]
      rintro ⟨-, was', -⟩
      cases was.symm.trans was'
    rw [eq, no]
    exact ⟨rfl, 0, 0, 1, rfl, rfl, rfl, rfl⟩
  | full fell was room eq =>
    have no : site.failsAtEnd world receiver = false := by
      rw [← Bool.not_eq_true, failsAtEnd_iff]
      rintro ⟨-, -, free, -⟩
      exact Nat.not_lt_of_le room free
    rw [eq, no]
    exact ⟨rfl, 0, 0, 1, rfl, rfl, rfl, rfl⟩
  | unresolved fell was room error refused eq =>
    have yes : site.failsAtEnd world receiver = true := by
      refine failsAtEnd_iff.2 ⟨fell, was, room, ?_⟩
      rw [answer, World.lookup, refused]
      rfl
    rw [eq, yes]
    exact ⟨rfl, 0, 0, 0, rfl, rfl, rfl, rfl⟩
  | added fell was room resolution guard resolved guarded eq =>
    have no : site.failsAtEnd world receiver = false := by
      rw [← Bool.not_eq_true, failsAtEnd_iff]
      rintro ⟨-, -, -, failed⟩
      rw [answer, World.lookup, resolved] at failed
      cases failed
    rw [eq, no]
    exact ⟨rfl, 0, 1, 0, rfl, rfl, rfl, rfl⟩

/-- The nodes are those that were added and not dropped, and the site turned generic once if it is
generic, and else never. -/
structure Balanced (site : Site) : Prop where
  nodes : site.counters.specializations = site.counters.prunes + site.nodes.length
  terminal : site.counters.generalizations = if site.terminal = .generic then 1 else 0

/-- What a walk drops is counted. -/
theorem Balanced.passed (balanced : site.Balanced) (world : World) (receiver : ObjectId) :
    (site.passed world receiver).Balanced where
  nodes := by
    have counted := walk_kept_length world receiver 0 site.nodes
    have before := balanced.nodes
    show site.counters.specializations =
      site.counters.prunes + (walk world receiver 0 site.nodes).prunes +
        (walk world receiver 0 site.nodes).kept.length
    omega
  terminal := balanced.terminal

/-- **A read keeps the balance.** -/
theorem Balanced.readObject (balanced : site.Balanced) (world : World) (receiver : ObjectId) :
    (site.readObject world receiver).site.Balanced := by
  obtain ⟨nodes, terminal⟩ := balanced.passed world receiver
  cases readObject_cases world receiver site with
  | hit _ _ eq | failed _ _ eq | generic _ _ eq | unresolved _ _ _ _ _ eq =>
    exact eq ▸ ⟨nodes, terminal⟩
  | full fell was room eq =>
    have was' : (site.passed world receiver).terminal = .uninitialized := was
    rw [was', if_neg nofun] at terminal
    rw [eq]
    exact ⟨nodes, congrArg (· + 1) terminal⟩
  | added fell was room resolution guard resolved guarded eq =>
    rw [eq]
    refine ⟨?_, terminal⟩
    show (site.passed world receiver).counters.specializations + 1 = _
    rw [nodes, List.length_append]
    rfl

end Site

namespace Session

variable {session : Session} {history : List Action} {id : SiteId} {action : Action}
  {receiver : ObjectId}

/-! ## One action -/

/-- The action reads at the site from an object. -/
def readsAt (id : SiteId) (session : Session) (action : Action) : Bool :=
  (session.receiverAt id action).isSome

/-- It does, and fails at the end of a chain that has room. -/
def failsAt (id : SiteId) (session : Session) (action : Action) : Bool :=
  match session.receiverAt id action with
  | some receiver => ((session.located action).site id).failsAtEnd session.world receiver
  | none => false

/-- **How an action is counted** at a site. -/
theorem Reachable.entered_after (reached : session.Reachable) (admitted : session.Admits action)
    (id : SiteId) :
    (session.site id).counters.Entered ((session.after action).site id).counters
      (readsAt id session action).toNat (failsAt id session action).toNat := by
  rw [← counters_located session action id]
  cases reads : session.receiverAt id action with
  | none =>
    rw [counters_after_of_idle admitted reads, counters_located, readsAt, failsAt, reads]
    exact ⟨rfl, 0, 0, 0, rfl, rfl, rfl, rfl⟩
  | some receiver =>
    have there := hasObject_of_receiverAt admitted reads
    rw [reached.site_after_of_reads admitted reads, readsAt, failsAt, reads]
    exact (reached.backed_located admitted id).entered_readObject reached.sound there

theorem Reachable.balanced (reached : session.Reachable) (id : SiteId) :
    (session.site id).Balanced :=
  Reachable.site_induction (motive := fun _ site => site.Balanced) (fun _ _ _ => ⟨rfl, rfl⟩)
    (fun _ _ _ _ _ balanced => balanced)
    (fun world _ receiver _ _ _ balanced => balanced.readObject world receiver) reached id

/-! ## Histories -/

/-- How many actions of the history are of the sort, each in the session of its turn. -/
def tally (session : Session) (sort : Session → Action → Bool) : List Action → Nat
  | [] => 0
  | action :: rest => (sort session action).toNat + (session.after action).tally sort rest

/-- **The counts of a history** are those of its actions. -/
theorem Reachable.answered_run (reached : session.Reachable)
    (admitted : session.AdmitsAll history) (id : SiteId) :
    let before := (session.site id).counters
    let after := ((session.run history).site id).counters
    after.reads = before.reads + session.tally (readsAt id) history ∧
      after.answered + session.tally (failsAt id) history =
        before.answered + session.tally (readsAt id) history := by
  induction history generalizing session with
  | nil => exact ⟨rfl, rfl⟩
  | cons action rest ih =>
    have first := reached.entered_after admitted.1 id
    obtain ⟨reads, answered⟩ := ih (reached.after admitted.1) admitted.2
    have reads' := first.reads
    have answered' := first.answered
    simp only [run_cons, tally]
    omega

/-- **The accounts of a call site balance.** Its nodes are the specializations less the prunes, it
has generalized once if it is generic, and its reads are the reads of the history from objects: the
hits, the specializations, the generic reads, and those that failed at the end of a chain with room.
Each read is one of these, and an action that does not read there from an object counts nothing. -/
theorem counters_account (admitted : empty.AdmitsAll history) (id : SiteId) :
    let session := empty.run history
    let counters := (session.site id).counters
    counters.specializations = counters.prunes + (session.site id).profile.size ∧
      counters.generalizations = (if (session.site id).profile.isGeneric then 1 else 0) ∧
      counters.reads = empty.tally (readsAt id) history ∧
      counters.reads = counters.hits + counters.specializations + counters.genericReads +
        empty.tally (failsAt id) history ∧
      ∀ action, session.Admits action →
        let after := ((session.after action).site id).counters
        (∀ receiver, session.receiverAt id action = some receiver →
          counters.Entered after 1 (failsAt id session action).toNat) ∧
        (session.receiverAt id action = none → after = counters) := by
  intro session counters
  have reached : session.Reachable := reachable_empty.run admitted
  obtain ⟨nodes, terminal⟩ := reached.balanced id
  obtain ⟨reads, answered⟩ := reachable_empty.answered_run admitted id
  have zero : (empty.site id).counters = .zero := by
    rw [site_of_not_hasSite (Nat.not_lt_zero _)]
    rfl
  rw [zero] at reads answered
  have reads : counters.reads = 0 + empty.tally (readsAt id) history := reads
  have answered : counters.hits + counters.specializations + counters.genericReads +
      empty.tally (failsAt id) history = 0 + empty.tally (readsAt id) history := answered
  refine ⟨?_, ?_, ?_, ?_, ?_⟩
  · rw [Profile.size, Site.profile, List.length_map]
    exact nodes
  · rw [Profile.isGeneric, Site.profile]
    simpa using terminal
  · rw [reads, Nat.zero_add]
  · rw [reads, answered]
  · intro action admitted' after
    constructor
    · intro receiver reads
      have entered := reached.entered_after admitted' id
      rwa [readsAt, reads] at entered
    · exact counters_after_of_idle admitted'

/-- A site with room for one node reads an attribute before it is there, after it is, and once more;
then from an integer. After another attribute was added to the class, the site reads it again, and
then from the base. -/
def audited : List Action :=
  [.newRegistry, .newClass ⟨0⟩ "Base" none, .newClass ⟨0⟩ "Derived" (some ⟨0⟩),
    .newSite "x" ⟨1, 256, Nat.one_pos, Limits.standard.hierarchy_pos⟩,
    .read ⟨0⟩ (.object (.cls ⟨1⟩)), .setAttribute ⟨0⟩ (.object (.cls ⟨0⟩)) "x" (.int 1),
    .read ⟨0⟩ (.object (.cls ⟨1⟩)), .read ⟨0⟩ (.object (.cls ⟨1⟩)), .read ⟨0⟩ (.int 7),
    .setAttribute ⟨0⟩ (.object (.cls ⟨1⟩)) "y" (.int 2), .read ⟨0⟩ (.object (.cls ⟨1⟩)),
    .read ⟨0⟩ (.object (.cls ⟨0⟩))]

/-- Of the five reads from a class one fails, one hits, two specialize and one is generic; one node
is dropped and one is left. The next read from the base is generic as well, and one from an integer
counts nothing. -/
theorem counters_account_of_audited :
    let session := empty.run audited
    let counters := (session.site ⟨0⟩).counters
    (counters.reads = 5 ∧ counters.hits = 1 ∧ counters.specializations = 2 ∧
        counters.genericReads = 1 ∧ empty.tally (failsAt ⟨0⟩) audited = 1) ∧
      counters.reads = counters.hits + counters.specializations + counters.genericReads + 1 ∧
      counters.specializations = counters.prunes + 1 ∧ counters.generalizations = 1 ∧
      ((session.after (.read ⟨0⟩ (.object (.cls ⟨0⟩)))).site ⟨0⟩).counters.reads = 6 ∧
      ((session.after (.read ⟨0⟩ (.int 7))).site ⟨0⟩).counters = counters := by
  intro session counters
  have admitted : empty.AdmitsAll audited := by decide
  obtain ⟨nodes, generic, -, account, step⟩ := counters_account admitted ⟨0⟩
  have failed : empty.tally (failsAt ⟨0⟩) audited = 1 := by decide
  obtain ⟨entered, -⟩ := step (.read ⟨0⟩ (.object (.cls ⟨0⟩))) (by decide)
  obtain ⟨-, idle⟩ := step (.read ⟨0⟩ (.int 7)) (by decide)
  rw [failed] at account
  exact ⟨by decide, account, nodes, generic, (entered (.cls ⟨0⟩) rfl).reads, idle rfl⟩

end Session

end InlineCache
