import InlineCache.Proofs.Session.Accounts
import InlineCache.Proofs.Session.Chains
import InlineCache.Proofs.Session.Nearest
import InlineCache.Proofs.Session.Outcomes

/-!
# What failed reads leave behind

A read fails to find an attribute if the name does not resolve on the receiver. Then no node answers
it, so its walk comes to the end of the nodes; it may have dropped a stale one on the way, and the
site may turn generic if it is full, but nothing is added, since there is nothing to add. A read
from a value that is no object does not come to the site at all.

A read that asks for a kind may also fail because the value is of another kind. By then the
attribute was read: the site has taken notice of it as in any other read, and may have added a node.

Either way the site is settled for the receiver afterwards: as long as the objects stay as they are
and nobody else reads at the site, a further read finds what the first one found, and leaves the
nodes and the terminal as they are.

## Main definitions

* `Reply.error?`, `ReadError.isUnread`: the error of a read, and whether it has found no value
* `Site.AddsNothing`, `Site.HasRoom`: a read has added nothing to a site, or can add a node
* `Site.Settled`: a read from the receiver leaves nodes and terminal as they are
* `Session.ReadAlone`: the objects stay as they are, and one receiver at most reads at the site

## Main results

* `Site.Backed.addsNothing_of_refused`, `Site.readObject_of_found`: what a read adds
* `Site.Backed.settled_readObject`: a site is settled after a read
* `Reachable.error_of_reads`: the error of a read, by what the name resolves to
* `Rests.run`: what is left of a site after many reads
* `failed_reads_not_cached`: what failed reads do
* `wrong_kind_cached`: a read of the wrong kind adds a node
-/

namespace InlineCache

/-! ## Errors of reads -/

/-- The error says that no value was read. The other errors are those of a value that was read, and
is not of the kind that was asked for. -/
def ReadError.isUnread : ReadError → Bool
  | unexpectedKind _ _ => false
  | _ => true

/-- The error, if the answer is one. -/
def errorOf {α : Type} : Except ReadError α → Option ReadError
  | .ok _ => none
  | .error error => some error

/-- The error, if the reply is that of a read that returned one. -/
def Reply.error? : Reply → Option ReadError
  | read answer => errorOf answer
  | readInt answer => errorOf answer
  | readFloat answer => errorOf answer
  | readBool answer => errorOf answer
  | _ => none

namespace Action

/-- The value from which the action reads, if it does. -/
def value? : Action → Option Value
  | read _ value | readInt _ value | readFloat _ value | readBool _ value => some value
  | load _ _ _ value => some value
  | _ => none

/-- The kind that a read asks for, if it asks for one. -/
def kind? : Action → Option Kind
  | readInt _ _ => some .int
  | readFloat _ _ => some .float
  | readBool _ _ => some .bool
  | _ => none

/-- The same read, asking for no kind. -/
def plain : Action → Action
  | readInt site value | readFloat site value | readBool site value => read site value
  | action => action

end Action

namespace World

variable {world : World} {limit : Nat} {receiver : ObjectId} {name : String} {error : ReadError}

/-- The error of a read that asks for a kind, or for none, if the name resolves to this. -/
def readError? (world : World) : Option Kind → Except ReadError Value → Option ReadError
  | _, .error error => some error
  | none, .ok _ => none
  | some kind, .ok found =>
    if found.kind = kind then none else some (.unexpectedKind kind (world.display found))

/-- A name that does not resolve is not read. -/
theorem isUnread_of_lookup (refused : world.lookup limit receiver name = .error error) :
    error.isUnread = true := by
  have search {check : ReceiverCheck} {first : Option ClassId} {error : ReadError}
      (refused : world.resolveInherited limit receiver name check first = .error error) :
      error.isUnread = true := by
    rw [resolveInherited] at refused
    split at refused <;> cases refused <;> rfl
  have unread {error : ReadError} (refused : world.resolve limit receiver name = .error error) :
      error.isUnread = true := by
    unfold resolve at refused
    split at refused
    · cases refused
    · split at refused
      · exact search refused
      · exact search refused
      · cases refused
        rfl
  rw [lookup] at refused
  cases resolved : world.resolve limit receiver name with
  | ok resolution =>
    rw [resolved] at refused
    cases refused
  | error found =>
    rw [resolved] at refused
    cases refused
    exact unread resolved

/-- **A read fails to find a value** if the name does not resolve. -/
theorem lookup_of_unread {asked : Option Kind}
    (failed : world.readError? asked (world.lookup limit receiver name) = some error)
    (unread : error.isUnread = true) : world.lookup limit receiver name = .error error := by
  cases found : world.lookup limit receiver name with
  | error error' =>
    rw [found] at failed
    cases failed
    rfl
  | ok value =>
    rw [found] at failed
    cases asked with
    | none => cases failed
    | some kind =>
      rw [readError?] at failed
      split at failed <;> cases failed
      cases unread

/-- **A read finds a value of the wrong kind** if the name resolves to it. -/
theorem lookup_of_wrong_kind {asked : Option Kind}
    (failed : world.readError? asked (world.lookup limit receiver name) = some error)
    (wrong : error.isUnread = false) :
    ∃ kind value, asked = some kind ∧ world.lookup limit receiver name = .ok value ∧
      value.kind ≠ kind ∧ error = .unexpectedKind kind (world.display value) := by
  cases found : world.lookup limit receiver name with
  | error error' =>
    rw [found] at failed
    cases failed
    cases wrong.symm.trans (isUnread_of_lookup found)
  | ok value =>
    rw [found] at failed
    cases asked with
    | none => cases failed
    | some kind =>
      rw [readError?] at failed
      split at failed <;> cases failed
      exact ⟨kind, value, rfl, rfl, ‹_›, rfl⟩

end World

/-! ## Failed reads at a site -/

namespace Site

variable {world : World} {receiver : ObjectId} {site : Site} {error : ReadError} {value : Value}

/-- What a read has done to a site to which it has added nothing: it has dropped a stale node at
most, and has turned the site generic if its walk came to the end past as many nodes as the limit
allows. -/
structure AddsNothing (world : World) (receiver : ObjectId) (before after : Site) : Prop where
  chain : ∃ (front : List CachedNode) (dropped : Option CachedNode) (back : List CachedNode),
    before.nodes = front ++ dropped.toList ++ back ∧ after.nodes = front ++ back ∧
      ∀ node ∈ dropped, node.guard.check world receiver = .ok .stale
  specializations : after.counters.specializations = before.counters.specializations
  terminal : after.terminal = .generic ↔ before.terminal = .generic ∨
    (walk world receiver 0 before.nodes).ending = .fellOff before.limits.chain

/-- A read from the receiver comes to the end of the chain, which takes one node more. -/
structure HasRoom (world : World) (receiver : ObjectId) (site : Site) : Prop where
  terminal : site.terminal = .uninitialized
  fell : site.FallsOff world receiver
  room : (site.passed world receiver).nodes.length < site.limits.chain

/-- A read from the receiver leaves the nodes and the terminal as they are. -/
structure Settled (world : World) (receiver : ObjectId) (site : Site) : Prop where
  nodes : (site.readObject world receiver).site.nodes = site.nodes
  terminal : (site.readObject world receiver).site.terminal = site.terminal

/-- The end of a chain is the end past as many nodes as the walk keeps. -/
theorem terminal_readObject_iff_ending (bound : site.nodes.length ≤ site.limits.chain) :
    (site.readObject world receiver).site.terminal = .generic ↔
      site.terminal = .generic ∨
        (walk world receiver 0 site.nodes).ending = .fellOff site.limits.chain := by
  rw [terminal_readObject_iff]
  refine or_congr_right ⟨?_, ?_⟩
  · rintro ⟨⟨position, fell⟩, full⟩
    have counted : position = 0 + (site.passed world receiver).nodes.length := walk_position fell
    have kept := length_passed_le world receiver site
    rw [fell]
    congr
    omega
  · intro fell
    have counted : site.limits.chain = 0 + (site.passed world receiver).nodes.length :=
      walk_position fell
    exact ⟨⟨_, fell⟩, by omega⟩

theorem exists_resolution_of_lookup {limit : Nat} {name : String}
    (found : world.lookup limit receiver name = .ok value) :
    ∃ resolution, world.resolve limit receiver name = .ok resolution := by
  rw [World.lookup] at found
  cases resolved : world.resolve limit receiver name with
  | ok resolution => exact ⟨resolution, rfl⟩
  | error error =>
    rw [resolved] at found
    cases found

/-- **A read that finds no value adds no node**, and counts no specialization. -/
theorem readObject_of_refused
    (refused : world.lookup site.limits.hierarchy receiver site.name = .error error) :
    (site.readObject world receiver).site.nodes = (site.passed world receiver).nodes ∧
      (site.readObject world receiver).site.counters.specializations =
        site.counters.specializations := by
  cases readObject_cases world receiver site with
  | hit _ _ eq | failed _ _ eq | generic _ _ eq | full _ _ _ eq | unresolved _ _ _ _ _ eq =>
    rw [eq]
    exact ⟨rfl, rfl⟩
  | added fell was room resolution guard resolved guarded eq =>
    rw [World.lookup, resolved] at refused
    cases refused

theorem Backed.addsNothing_of_refused (backed : site.Backed world) (distinct : site.Distinct)
    (bound : site.nodes.length ≤ site.limits.chain) (sound : world.Sound)
    (hr : world.HasObject receiver)
    (refused : world.lookup site.limits.hierarchy receiver site.name = .error error) :
    AddsNothing world receiver site (site.readObject world receiver).site := by
  obtain ⟨nodes, specializations⟩ := readObject_of_refused refused
  refine ⟨?_, specializations, terminal_readObject_iff_ending bound⟩
  obtain ⟨front, dropped, back, all, kept, stale⟩ := distinct.exists_dropped backed sound hr
  refine ⟨front, dropped, back, all, nodes.trans kept, ?_⟩
  intro node mem
  have mem' : node ∈ site.nodes := by
    rw [all]
    simp [Option.mem_def.1 mem]
  exact (backed node mem').check_iff.2 (stale node mem)

/-- **A read that finds a value** adds a node, and counts a specialization, if there is room for
it. -/
theorem readObject_of_found
    (found : world.lookup site.limits.hierarchy receiver site.name = .ok value) :
    let after := (site.readObject world receiver).site
    (site.HasRoom world receiver →
      (∃ node, after.nodes = (site.passed world receiver).nodes ++ [node]) ∧
        after.counters.specializations = site.counters.specializations + 1) ∧
    (¬ site.HasRoom world receiver →
      after.nodes = (site.passed world receiver).nodes ∧
        after.counters.specializations = site.counters.specializations) := by
  intro after
  obtain ⟨resolution, resolved⟩ := exists_resolution_of_lookup found
  constructor
  · rintro ⟨was, fell, room⟩
    obtain ⟨guard, -, added⟩ := readObject_of_room was fell room resolved
    rw [show after = _ from added]
    exact ⟨⟨_, rfl⟩, rfl⟩
  · intro full
    cases readObject_cases world receiver site with
    | hit _ _ eq | failed _ _ eq | generic _ _ eq | full _ _ _ eq | unresolved _ _ _ _ _ eq =>
      rw [show after = _ from eq]
      exact ⟨rfl, rfl⟩
    | added fell was room _ _ _ _ eq => exact absurd ⟨was, fell, room⟩ full

/-! ## Reading again -/

/-- What a site has counted does not matter to its nodes. -/
theorem exists_readObject_counters (world : World) (receiver : ObjectId) (site : Site)
    (counters : Counters) : ∃ counted,
      (Site.readObject world receiver { site with counters }).site =
        { (site.readObject world receiver).site with counters := counted } := by
  unfold readObject
  dsimp only
  cases (walk world receiver 0 site.nodes).ending with
  | hit value => exact ⟨_, rfl⟩
  | failed error => exact ⟨_, rfl⟩
  | fellOff position =>
    unfold readTerminal specialize
    dsimp only
    cases site.terminal with
    | generic => exact ⟨_, rfl⟩
    | uninitialized =>
      dsimp only
      split
      · exact ⟨_, rfl⟩
      · split
        · exact ⟨_, rfl⟩
        · split <;> exact ⟨_, rfl⟩

theorem Settled.of_counters (settled : site.Settled world receiver) (counters : Counters) :
    Settled world receiver { site with counters } := by
  obtain ⟨counted, same⟩ := exists_readObject_counters world receiver site counters
  constructor
  · rw [same]
    exact settled.nodes
  · rw [same]
    exact settled.terminal

/-- **A read at a settled site** changes only counters. -/
theorem Settled.readObject (settled : site.Settled world receiver) :
    ∃ counters, (site.readObject world receiver).site = { site with counters } := by
  let after := (site.readObject world receiver).site
  refine ⟨after.counters, ?_⟩
  calc
    after = ⟨after.name, after.limits, after.nodes, after.terminal, after.counters⟩ := rfl
    _ = { site with counters := after.counters } := by
      rw [show after.name = _ from name_readObject ..,
        show after.limits = _ from limits_readObject ..,
        show after.nodes = _ from settled.nodes, show after.terminal = _ from settled.terminal]

/-- A site of which a walk keeps all nodes is settled if the end of the chain changes nothing. -/
theorem settled_of_kept (kept : (site.passed world receiver).nodes = site.nodes)
    (decided : site.FallsOff world receiver → site.terminal = .generic ∨
      site.nodes.length < site.limits.chain ∧
        ∃ error, world.resolve site.limits.hierarchy receiver site.name = .error error) :
    site.Settled world receiver := by
  cases readObject_cases world receiver site with
  | hit _ _ eq | failed _ _ eq | generic _ _ eq | unresolved _ _ _ _ _ eq =>
    constructor
    · rw [eq]
      exact kept
    · rw [eq]
      rfl
  | full fell was room eq =>
    rw [kept] at room
    rcases decided fell with generic | ⟨free, -⟩
    · cases was.symm.trans generic
    · exact absurd free (Nat.not_lt_of_le room)
  | added fell was room resolution guard resolved guarded eq =>
    rcases decided fell with generic | ⟨-, error, refused⟩
    · cases was.symm.trans generic
    · cases resolved.symm.trans refused

/-- A site is settled once a node was added. The token of the node may be invalid already, if a
client has invalidated it. Then the next read drops the node, and adds its like. -/
theorem settled_of_added (sound : world.Sound) (hr : world.HasObject receiver)
    (was : site.terminal = .uninitialized) (fell : site.FallsOff world receiver)
    (room : (site.passed world receiver).nodes.length < site.limits.chain) {resolution : Resolution}
    {guard : Guard}
    (resolved : world.resolve site.limits.hierarchy receiver site.name = .ok resolution)
    (guarded : Guard.ofResolution resolution = .ok guard) (counters : Counters) :
    Settled world receiver { site.passed world receiver with
      nodes := (site.passed world receiver).nodes ++ [⟨guard, resolution.location⟩]
      counters } := by
  set after : Site := { site.passed world receiver with
    nodes := (site.passed world receiver).nodes ++ [⟨guard, resolution.location⟩]
    counters }
  have backed : CachedNode.Backed world site.limits.hierarchy site.name
      ⟨guard, resolution.location⟩ := CachedNode.backed_of_resolve sound hr resolved guarded
  obtain ⟨probe, probed, outcome⟩ := backed.exists_probed sound hr
  -- the next walk passes all nodes that this one has kept, and comes to the new one
  obtain ⟨position, fell⟩ := fell
  obtain ⟨kept, again⟩ := walk_again world receiver 0 site.nodes
  obtain ⟨all, ended⟩ := walk_append [⟨guard, resolution.location⟩] (again.trans fell)
  rw [kept] at all
  unfold Probed at probed
  simp only [walk, probed] at all ended
  cases probe with
  | hit value =>
    refine settled_of_kept all ?_
    rintro ⟨position', fell'⟩
    cases ended.symm.trans fell'
  | miss =>
    have known := (Guard.recalls_of_resolve sound hr resolved guarded).key_matches
    exact absurd known (Guard.verdict_eq_miss_iff.1 outcome.symm)
  | stale =>
    have passed : (after.passed world receiver).nodes = (site.passed world receiver).nodes :=
      all.trans (List.append_nil _)
    have was' : after.terminal = .uninitialized := was
    obtain ⟨guard', guarded', added⟩ :=
      readObject_of_room was' ⟨position, ended⟩ (passed ▸ room) resolved
    cases guarded.symm.trans guarded'
    constructor
    · rw [added, passed]
    · rw [added]
      rfl

/-- **A site is settled after a read.** -/
theorem Backed.settled_readObject (backed : site.Backed world) (sound : world.Sound)
    (hr : world.HasObject receiver) :
    (site.readObject world receiver).site.Settled world receiver := by
  obtain ⟨kept, again⟩ := walk_again world receiver 0 site.nodes
  cases readObject_cases world receiver site with
  | hit value ended eq =>
    rw [eq]
    refine settled_of_kept kept ?_
    rintro ⟨position, fell⟩
    cases (again.trans ended).symm.trans fell
  | failed error ended eq => exact absurd ended (backed.ending_ne_failed receiver error)
  | generic fell was eq =>
    rw [eq]
    exact settled_of_kept kept fun _ => .inl was
  | full fell was room eq =>
    rw [eq]
    exact settled_of_kept kept fun _ => .inl rfl
  | unresolved fell was room error refused eq =>
    rw [eq]
    exact settled_of_kept kept fun _ => .inr ⟨room, error, refused⟩
  | added fell was room resolution guard resolved guarded eq =>
    rw [eq]
    exact settled_of_added sound hr was fell room resolved guarded _

end Site

namespace Session

variable {session : Session} {id : SiteId} {action : Action} {receiver : ObjectId}
  {history : List Action} {value : Value} {error : ReadError}

/-! ## Errors of actions -/

theorem resolveAt_of_object (object : value.object? = some receiver) (id : SiteId) :
    session.resolveAt id value =
      session.world.lookup (session.site id).limits.hierarchy receiver (session.site id).name := by
  simp only [resolveAt, World.resolveValue, object]
  rfl

theorem errorOf_resolveAt (session : Session) (id : SiteId) (value : Value) :
    errorOf (session.resolveAt id value) =
      session.world.readError? none (session.resolveAt id value) := by
  cases session.resolveAt id value <;> rfl

theorem errorOf_resolveAs {α : Type} (session : Session) (id : SiteId) (value : Value) {kind : Kind}
    {part : Value → Option α} (parts : ∀ {found : Value}, part found = none ↔ found.kind ≠ kind) :
    errorOf (session.resolveAs id value kind part) =
      session.world.readError? (some kind) (session.resolveAt id value) := by
  rw [resolveAs]
  cases session.resolveAt id value with
  | error error => rfl
  | ok found =>
    dsimp only
    cases given : part found with
    | none =>
      rw [World.readError?, if_neg (parts.1 given)]
      rfl
    | some x =>
      have same : found.kind = kind := by
        by_contra other
        cases given.symm.trans (parts.2 other)
      rw [World.readError?, if_pos same]
      rfl

/-- **The error of a read from an object**, by what the name of the site resolves to there. -/
theorem Reachable.error_of_reads (reached : session.Reachable)
    (admitted : session.Admits action) (reads : session.receiverAt id action = some receiver) :
    let site := (session.located action).site id
    (session.perform action).answer.error? = session.world.readError? action.kind?
      (session.world.lookup site.limits.hierarchy receiver site.name) := by
  have held {at_ : SiteId} {value : Value} {asked : Option Kind}
      (object : (if at_ = id then value.object? else none) = some receiver) :
      session.world.readError? asked (session.resolveAt at_ value) =
        session.world.readError? asked (session.world.lookup
          (session.site id).limits.hierarchy receiver (session.site id).name) := by
    split at object
    · next same =>
      rw [same, resolveAt_of_object object]
    · cases object
  cases action with
  | read at_ value =>
    have answered := congrArg errorOf (reached.answer_read at_ admitted.2)
    exact (answered.trans (errorOf_resolveAt session at_ value)).trans (held reads)
  | readInt at_ value =>
    have answered := congrArg errorOf (reached.answer_expect at_ admitted.2 .int Value.int?)
    exact (answered.trans (errorOf_resolveAs session at_ value Value.int?_eq_none_iff)).trans
      (held reads)
  | readFloat at_ value =>
    have answered := congrArg errorOf (reached.answer_expect at_ admitted.2 .float Value.float?)
    exact (answered.trans (errorOf_resolveAs session at_ value Value.float?_eq_none_iff)).trans
      (held reads)
  | readBool at_ value =>
    have answered := congrArg errorOf (reached.answer_expect at_ admitted.2 .bool Value.bool?)
    exact (answered.trans (errorOf_resolveAs session at_ value Value.bool?_eq_none_iff)).trans
      (held reads)
  | load table place name value =>
    have located : (session.siteAt table place name).session.Reachable :=
      reached.located admitted
    have world : (session.siteAt table place name).session.world = session.world :=
      world_siteAt session table place name
    rw [receiverAt] at reads
    split at reads
    · next at_ handed =>
      split at reads
      · next here =>
        subst here
        have hv : (session.siteAt table place name).session.world.HasValue value :=
          world ▸ admitted.2
        have answer : (session.perform (.load table place name value)).answer =
            .read ((session.siteAt table place name).session.read at_ value).answer := by
          simp only [perform, Session.load, handed]
        rw [answer, Reply.error?, located.answer_read at_ hv, errorOf_resolveAt,
          resolveAt_of_object reads, world]
        rfl
      · cases reads
    · cases reads
  | _ => cases reads

/-- A read that asks for a kind leaves all as it would be left without the question. -/
theorem after_plain (session : Session) (action : Action) :
    session.after action.plain = session.after action := by
  cases action <;> rfl

/-- Without the question it answers what the name resolves to. -/
theorem Reachable.answer_plain (reached : session.Reachable) (admitted : session.Admits action)
    (reads : session.receiverAt id action = some receiver) {kind : Kind}
    (asks : action.kind? = some kind) :
    let site := (session.located action).site id
    (session.perform action.plain).answer =
      .read (session.world.lookup site.limits.hierarchy receiver site.name) := by
  have held {at_ : SiteId} {value : Value} (hv : session.world.HasValue value)
      (object : (if at_ = id then value.object? else none) = some receiver) :
      (session.read at_ value).answer = session.world.lookup
        (session.site id).limits.hierarchy receiver (session.site id).name := by
    split at object
    · next same =>
      rw [reached.answer_read at_ hv, same, resolveAt_of_object object]
    · cases object
  cases action with
  | readInt at_ value | readFloat at_ value | readBool at_ value =>
    exact congrArg Reply.read (held admitted.2 reads)
  | _ => cases asks

/-- A value that is no object is read at no site. -/
theorem receiverAt_of_plain (given : action.value? = some value) (plain : value.object? = none)
    (id : SiteId) : session.receiverAt id action = none := by
  cases action with
  | read | readInt | readFloat | readBool =>
    cases given
    rw [receiverAt, plain, ite_self]
  | load table place name value =>
    cases given
    rw [receiverAt]
    split
    · rw [plain, ite_self]
    · rfl
  | _ => cases given

/-! ## Histories of reads -/

/-- Every action of the history leaves the objects as they are, and reads at the site from no other
receiver. -/
def ReadAlone (session : Session) (id : SiteId) (receiver : ObjectId) : List Action → Prop
  | [] => True
  | action :: rest =>
    ((session.after action).world = session.world ∧
        ∀ other ∈ session.receiverAt id action, other = receiver) ∧
      (session.after action).ReadAlone id receiver rest

instance decidableReadAlone (session : Session) (id : SiteId) (receiver : ObjectId) :
    (history : List Action) → Decidable (session.ReadAlone id receiver history)
  | [] => .isTrue trivial
  | action :: rest =>
    have := decidableReadAlone (session.after action) id receiver rest
    inferInstanceAs (Decidable (_ ∧ _))

/-- Reads from the receiver find this at the site, and change only what it has counted. -/
structure Rests (session : Session) (id : SiteId) (receiver : ObjectId)
    (found : Except ReadError Value) : Prop where
  created : session.HasSite id
  settled : (session.site id).Settled session.world receiver
  found : session.world.lookup (session.site id).limits.hierarchy receiver
    (session.site id).name = found

section Rests

variable {found : Except ReadError Value}

/-- An action that does not disturb the site changes only counters of it. -/
theorem Rests.site_after (rests : session.Rests id receiver found)
    (same : ∀ other ∈ session.receiverAt id action, other = receiver) :
    ∃ counters, (session.after action).site id = { session.site id with counters } := by
  cases reads : session.receiverAt id action with
  | none => exact ⟨_, site_after_of_idle rests.created reads⟩
  | some other =>
    obtain rfl := same other reads
    rw [site_after_of_reads rests.created reads]
    exact rests.settled.readObject

theorem Rests.after (rests : session.Rests id receiver found)
    (unchanged : (session.after action).world = session.world)
    (same : ∀ other ∈ session.receiverAt id action, other = receiver) :
    (session.after action).Rests id receiver found := by
  obtain ⟨counters, site⟩ := rests.site_after same
  constructor
  · exact hasSite_after rests.created action
  · rw [unchanged, site]
    exact rests.settled.of_counters counters
  · rw [unchanged, site]
    exact rests.found

/-- **Many reads** change only counters of the site. -/
theorem Rests.run (rests : session.Rests id receiver found)
    (alone : session.ReadAlone id receiver history) :
    (session.run history).Rests id receiver found ∧
      ∃ counters, (session.run history).site id = { session.site id with counters } := by
  induction history generalizing session with
  | nil => exact ⟨rests, _, rfl⟩
  | cons action rest ih =>
    obtain ⟨⟨unchanged, same⟩, later⟩ := alone
    obtain ⟨counters, first⟩ := rests.site_after same
    obtain ⟨still, counters', last⟩ := ih (rests.after unchanged same) later
    refine ⟨still, counters', ?_⟩
    rw [run_cons, last, first]

/-- After a first read the site is as further ones need it. -/
theorem Reachable.rests_after (reached : session.Reachable) (admitted : session.Admits action)
    (reads : session.receiverAt id action = some receiver) :
    let site := (session.located action).site id
    (session.after action).Rests id receiver
      (session.world.lookup site.limits.hierarchy receiver site.name) := by
  have there := hasObject_of_receiverAt admitted reads
  have backed := reached.backed_located admitted id
  have step := reached.site_after_of_reads admitted reads
  have world := world_after_of_reads reads
  constructor
  · exact reached.hasSite_after_of_reads admitted reads
  · rw [world, step]
    exact backed.settled_readObject reached.sound there
  · rw [world, step, Site.limits_readObject, Site.name_readObject]

/-- **A further read** finds what the first one found, and changes only counters. -/
theorem Rests.again (rests : session.Rests id receiver found) (reached : session.Reachable)
    (admitted : session.Admits action) (reads : session.receiverAt id action = some receiver) :
    (session.perform action).answer.error? = session.world.readError? action.kind? found ∧
      ∃ counters, (session.after action).site id = { session.site id with counters } := by
  constructor
  · rw [reached.error_of_reads admitted reads, site_located_of_hasSite rests.created, rests.found]
  · apply rests.site_after
    intro other mem
    exact Option.some.inj (mem.symm.trans reads)

/-- The objects are as they were. -/
theorem world_run_of_readAlone (alone : session.ReadAlone id receiver history) :
    (session.run history).world = session.world := by
  induction history generalizing session with
  | nil => rfl
  | cons action rest ih => exact (ih alone.2).trans alone.1.1

end Rests

/-- An action that does not read at a site leaves all of it alone that new sites have in common. -/
theorem state_after_of_idle (admitted : session.Admits action)
    (idle : session.receiverAt id action = none) :
    let before := (session.located action).site id
    let after := (session.after action).site id
    after.nodes = before.nodes ∧ after.terminal = before.terminal ∧
      after.counters = before.counters := by
  intro before after
  have unread {α : Type} (aspect : Site → α) (blank : α)
      (new : ∀ name limits, aspect (.new name limits) = blank) : aspect after = aspect before :=
    (aspect_after_of_idle new admitted idle).trans (aspect_located new session action id).symm
  refine ⟨?_, ?_, ?_⟩
  · exact unread Site.nodes [] fun _ _ => rfl
  · exact unread Site.terminal .uninitialized fun _ _ => rfl
  · exact unread Site.counters .zero fun _ _ => rfl

/-- **Failed reads are not cached, unless a value was read.** A read from an object that returns an
error adds no node to its site and counts no specialization, if no value was read. Of the chain it
drops one node at most, a stale one. The site is generic afterwards if it was before, or if the walk
has come to its end past as many nodes as the limit allows.

A read that returns an error because the value is of another kind than the one asked for leaves all
as the plain read leaves it that returns the value: it adds a node, and counts a specialization, if
its walk comes to the end of a chain that takes one more.

As long as the objects stay as they are and nobody else reads at the site, every further read from
the object leaves nodes and terminal as the first one left them, and it fails with the same error;
if a value was read, then so does every one that asks for the same kind.

A read from a value that is no object reads at no site, and an action that does not read at a site
leaves its nodes, its terminal and its counters alone. -/
theorem failed_reads_not_cached (reached : session.Reachable) (admitted : session.Admits action)
    (id : SiteId) :
    let world := session.world
    let before := (session.located action).site id
    let next := session.after action
    let after := next.site id
    (∀ receiver error, session.receiverAt id action = some receiver →
      (session.perform action).answer.error? = some error →
      (error.isUnread = true → before.AddsNothing world receiver after) ∧
      (error.isUnread = false →
        (session.after action.plain = next ∧
          ∃ kind found, action.kind? = some kind ∧
            (session.perform action.plain).answer = .read (.ok found) ∧ found.kind ≠ kind ∧
            error = .unexpectedKind kind (world.display found)) ∧
        (before.HasRoom world receiver →
          (∃ node, after.nodes = (before.passed world receiver).nodes ++ [node]) ∧
            after.counters.specializations = before.counters.specializations + 1) ∧
        (¬ before.HasRoom world receiver →
          after.nodes = (before.passed world receiver).nodes ∧
            after.counters.specializations = before.counters.specializations)) ∧
      ∀ history again, next.AdmitsAll history → next.ReadAlone id receiver history →
        let later := next.run history
        later.Admits again → later.receiverAt id again = some receiver →
          ((later.after again).site id).nodes = after.nodes ∧
          ((later.after again).site id).terminal = after.terminal ∧
          (error.isUnread = true ∨ again.kind? = action.kind? →
            (later.perform again).answer.error? = some error)) ∧
    (∀ value ∈ action.value?, value.object? = none → session.receiverAt id action = none) ∧
    (session.receiverAt id action = none →
      after.nodes = before.nodes ∧ after.terminal = before.terminal ∧
        after.counters = before.counters) := by
  intro world before next after
  refine ⟨?_, fun value given plain => receiverAt_of_plain given plain id,
    state_after_of_idle admitted⟩
  intro receiver error reads failed
  have there : world.HasObject receiver := hasObject_of_receiverAt admitted reads
  have located : (session.located action).Reachable := reached.located admitted
  have backed : before.Backed world := reached.backed_located admitted id
  have step : after = (before.readObject world receiver).site :=
    reached.site_after_of_reads admitted reads
  have reason : world.readError? action.kind?
      (world.lookup before.limits.hierarchy receiver before.name) = some error :=
    (reached.error_of_reads admitted reads).symm.trans failed
  refine ⟨?_, ?_, ?_⟩
  · intro unread
    rw [step]
    exact backed.addsNothing_of_refused (located.distinct id) (located.length_le id) reached.sound
      there (World.lookup_of_unread reason unread)
  · intro wrong
    obtain ⟨kind, found, asks, resolved, other, text⟩ := World.lookup_of_wrong_kind reason wrong
    have answer : (session.perform action.plain).answer =
        .read (world.lookup before.limits.hierarchy receiver before.name) :=
      reached.answer_plain admitted reads asks
    rw [resolved] at answer
    refine ⟨⟨after_plain session action, kind, found, asks, answer, other, text⟩, ?_⟩
    rw [step]
    exact Site.readObject_of_found resolved
  · intro history again admitted' alone later admits reads'
    obtain ⟨still, counters, same⟩ := (reached.rests_after admitted reads).run alone
    have reached' : later.Reachable := (reached.after admitted).run admitted'
    obtain ⟨error', counters', last⟩ := still.again reached' admits reads'
    have unchanged : later.world = world :=
      (world_run_of_readAlone alone).trans (world_after_of_reads reads)
    rw [last, same]
    refine ⟨rfl, rfl, ?_⟩
    rintro (unread | same_kind)
    · have refused := World.lookup_of_unread reason unread
      exact error'.trans (congrArg (later.world.readError? again.kind?) refused)
    · rw [error', unchanged, same_kind]
      exact reason

/-- A site with room for one node meets a class that inherits an attribute, which is then cut off
from its superclass. Another class never had the attribute. -/
def severed : List Action :=
  [.newRegistry, .newClass ⟨0⟩ "Base" none, .newClass ⟨0⟩ "Derived" (some ⟨0⟩),
    .newClass ⟨0⟩ "Other" none, .setAttribute ⟨0⟩ (.object (.cls ⟨0⟩)) "x" (.int 1),
    .newSite "x" ⟨1, 256, Nat.one_pos, Limits.standard.hierarchy_pos⟩,
    .read ⟨0⟩ (.object (.cls ⟨1⟩)), .setSuperclass ⟨1⟩ none]

/-- A read from the class that was cut off fails and drops the node, and after reads from an integer
and from the class once more one that asks for an integer fails like the first. A read from the
other class misses the node and turns the site generic. A read from an integer leaves it alone. -/
theorem failed_reads_not_cached_of_severed :
    let session := empty.run severed
    let derived : Action := .read ⟨0⟩ (.object (.cls ⟨1⟩))
    let other : Action := .read ⟨0⟩ (.object (.cls ⟨2⟩))
    let next := session.after derived
    let later := next.run [.read ⟨0⟩ (.int 7), derived]
    (session.site ⟨0⟩).nodes.length = 1 ∧ (next.site ⟨0⟩).nodes = [] ∧
      (next.site ⟨0⟩).counters.specializations = (session.site ⟨0⟩).counters.specializations ∧
      (later.perform (.readInt ⟨0⟩ (.object (.cls ⟨1⟩)))).answer.error? =
        some (.noAttribute "x" "type") ∧
      ((session.after other).site ⟨0⟩).terminal = .generic ∧
      ((session.after (.read ⟨0⟩ (.int 7))).site ⟨0⟩).counters = (session.site ⟨0⟩).counters := by
  intro session derived other next later
  have reached : session.Reachable := ⟨severed, by decide, rfl⟩
  obtain ⟨dropped, -, -⟩ := @failed_reads_not_cached session derived reached (by decide) ⟨0⟩
  obtain ⟨missed, -, -⟩ := @failed_reads_not_cached session other reached (by decide) ⟨0⟩
  obtain ⟨-, plain, unread⟩ :=
    @failed_reads_not_cached session (.read ⟨0⟩ (.int 7)) reached (by decide) ⟨0⟩
  obtain ⟨adds, -, always⟩ := dropped (.cls ⟨1⟩) (.noAttribute "x" "type") rfl (by decide)
  obtain ⟨turns, -, -⟩ := missed (.cls ⟨2⟩) (.noAttribute "x" "type") rfl (by decide)
  obtain ⟨-, -, again⟩ := always [.read ⟨0⟩ (.int 7), derived]
    (.readInt ⟨0⟩ (.object (.cls ⟨1⟩))) (by decide) (by decide) (by decide) rfl
  obtain ⟨-, -, counters⟩ := unread (plain (.int 7) rfl rfl)
  exact ⟨rfl, rfl, (adds rfl).specializations, again (.inl rfl), (turns rfl).terminal.2 (.inr rfl),
    counters⟩

/-- A class with a text, and a site that has read nothing. -/
def misread : List Action :=
  [.newRegistry, .newClass ⟨0⟩ "Plain" none,
    .setAttribute ⟨0⟩ (.object (.cls ⟨0⟩)) "x" (.str "one"), .newSite "x" .standard]

/-- **A read that asks for an integer and finds a text is cached**: it returns an error, and yet the
site has a node more, and has counted it. -/
theorem wrong_kind_cached :
    let session := empty.run misread
    let read : Action := .readInt ⟨0⟩ (.object (.cls ⟨0⟩))
    let before := session.site ⟨0⟩
    let after := (session.after read).site ⟨0⟩
    (session.Reachable ∧ session.Admits read) ∧
      (session.perform read).answer.error? = some (.unexpectedKind .int "'one'") ∧
      before.nodes.length = 0 ∧ after.nodes.length = 1 ∧
      before.counters.specializations = 0 ∧ after.counters.specializations = 1 := by
  intro session read before after
  exact ⟨⟨⟨misread, by decide, rfl⟩, by decide⟩, by decide, rfl, rfl, rfl, rfl⟩

end Session

end InlineCache
