import InlineCache.Proofs.Session.Nearest
import InlineCache.Proofs.Session.Transparency
import InlineCache.Proofs.Site.Replay

/-!
# Defects of construction are out of reach

Three of the invalid states are defects: a resolution whose depth and placement disagree, a guard
that names more or fewer classes than its depth says, and a guard that names no defining class. No
resolution has such a guard. The depth of a resolution is the number of classes that it visited, so
its guard is of the kind that the depth asks for and names as many classes; and such a guard is
checked and probed without error in whatever world. So no action replies with a defect or warns of
one, and a read at a site ends in an invalid state exactly if its search would have to ask more
classes than the limit allows.

## Main definitions

* `InvalidState.isDefect`, `Event.isDefect`: defects, and the warnings of them
* `Guard.hops`: the classes that a guard names
* `World.TooDeep`: a search would have to ask more classes than the limit allows
* `Reply.cause?`: the invalid state that a reply complains of

## Main results

* `length_hops_ofResolution`: a guard names as many classes as the depth says
* `resolve_eq_invalidState_iff`: when a resolution ends in an invalid state
* `exists_cause_of_warned`: no warning goes without its error
* `defects_unreachable`: no defect comes about
-/

namespace InlineCache

/-! ## Defects -/

/-- The state is a resolution or a guard that is at odds with itself. -/
def InvalidState.isDefect : InvalidState → Bool
  | inconsistentChain _ _ | mismatchedPlacement _ | noDefiner => true
  | _ => false

/-- The event warns of a defect. -/
def Event.isDefect : Event → Bool
  | inconsistentChain _ _ | mismatchedPlacement _ => true
  | _ => false

/-- The invalid state that an error complains of, if it does. -/
def ReadError.cause? : ReadError → Option InvalidState
  | invalidState cause => some cause
  | _ => none

/-- The invalid state that an answer complains of, if it does. -/
def causeOf {α : Type} : Except ReadError α → Option InvalidState
  | .ok _ => none
  | .error error => error.cause?

/-- The invalid state that a reply complains of, if it does. -/
def Reply.cause? : Reply → Option InvalidState
  | read answer => causeOf answer
  | readInt answer => causeOf answer
  | readFloat answer => causeOf answer
  | readBool answer => causeOf answer
  | site answer => causeOf answer
  | _ => none

theorem causeOf_eq_some_iff {α : Type} {answer : Except ReadError α} {cause : InvalidState} :
    causeOf answer = some cause ↔ answer = .error (.invalidState cause) := by
  cases answer with
  | ok _ => simp [causeOf]
  | error error => cases error <;> simp [causeOf, ReadError.cause?]

/-! ## Guards -/

namespace Guard

/-- The classes that the guard names, the defining one last. -/
def hops : Guard → List Hop
  | layout _ => []
  | cls _ definer => [definer]
  | chain _ hops _ => hops

/-- The guard of a search names the classes visited. -/
theorem hops_of_inherited {guard : Guard} {check : ReceiverCheck} {hops : List Hop}
    {location : Location} {value : Value}
    (guarded : ofResolution ⟨hops.length, location, value, .inherited check hops⟩ = .ok guard) :
    guard.hops = hops := by
  rcases hops with _ | ⟨hop, _ | ⟨next, rest⟩⟩ <;> cases guarded <;> rfl

/-- **A guard names as many classes as the depth says.** -/
theorem length_hops_ofResolution {world : World} {limit : Nat} {receiver : ObjectId}
    {name : String} {resolution : Resolution} {guard : Guard}
    (resolved : world.resolve limit receiver name = .ok resolution)
    (guarded : ofResolution resolution = .ok guard) : guard.hops.length = resolution.depth := by
  rcases World.resolve_cases resolved with
    ⟨location, value, -, rfl⟩ | ⟨check, first, found, -, -, -, rfl⟩
  · cases guarded
    rfl
  · exact congrArg List.length (hops_of_inherited guarded)

end Guard

/-! ## Searches that are too deep -/

namespace World

variable {world : World} {name : String} {limit : Nat} {receiver : ObjectId}
  {classes : List ClassId} {cause : InvalidState}

/-- A search for the name would have to ask more classes than the limit allows: neither the object
nor any class within the limit has the attribute, and there are more classes. -/
structure TooDeep (world : World) (limit : Nat) (receiver : ObjectId) (name : String) : Prop where
  absent : world.lookupOwn receiver name = none
  nowhere : ∀ c ∈ (world.ancestry receiver).take limit, world.lookupOwn (.cls c) name = none
  deeper : limit < (world.ancestry receiver).length

/-- A search along classes is too deep only if it has asked as many as the limit allows. -/
theorem absent_of_walk_tooDeep (walked : world.walk name limit classes = .error .tooDeep) :
    ∀ c ∈ classes.take limit, world.lookupOwn (.cls c) name = none := by
  induction classes generalizing limit with
  | nil => simp
  | cons c rest ih =>
    cases limit with
    | zero => simp
    | succ budget =>
      cases own : world.lookupOwn (.cls c) name with
      | some slot => simp [walk, own] at walked
      | none =>
        rw [walk_succ_of_absent own] at walked
        have rest_walked : world.walk name budget rest = .error .tooDeep := by
          cases found : world.walk name budget rest with
          | ok found => simp [found, Except.map] at walked
          | error absence => simpa [found, Except.map] using walked
        rw [List.take_succ_cons, List.forall_mem_cons]
        exact ⟨own, ih rest_walked⟩

/-- **A resolution ends in an invalid state** exactly if its search is too deep. -/
theorem resolve_eq_invalidState_iff :
    world.resolve limit receiver name = .error (.invalidState cause) ↔
      cause = .hierarchyTooDeep limit name ∧ world.TooDeep limit receiver name := by
  constructor
  · intro refused
    have absent : world.lookupOwn receiver name = none := by
      rw [Option.eq_none_iff_forall_ne_some]
      rintro ⟨location, value⟩ own
      rw [resolve_own own] at refused
      cases refused
    -- The answer for a name that is nowhere tells the two reasons apart.
    have deep (nowhere : ∀ c ∈ (world.ancestry receiver).take limit,
        world.lookupOwn (.cls c) name = none) :
        cause = .hierarchyTooDeep limit name ∧ world.TooDeep limit receiver name := by
      rw [resolve_of_nowhere absent nowhere] at refused
      split at refused
      · next deeper =>
        cases refused
        exact ⟨rfl, absent, nowhere, deeper⟩
      · cases refused
    apply deep
    cases enters : world.entry receiver with
    | none =>
      rw [ancestry_of_no_entry enters]
      simp
    | some start =>
      obtain ⟨check, first⟩ := start
      rw [resolve_of_absent absent enters, resolveInherited] at refused
      rw [ancestry_eq enters]
      split at refused
      · cases refused
      · next walked => exact absent_of_walk_tooDeep walked
      · cases refused
  · rintro ⟨rfl, absent, nowhere, deeper⟩
    rw [resolve_of_nowhere absent nowhere, if_pos deeper]

end World

/-! ## Warnings -/

/-- An answer that warns of a defect complains of it. -/
theorem exists_cause_of_mem_warnings {α : Type} {answer : Except ReadError α} {event : Event}
    (mem : event ∈ warningsOf answer) (defect : event.isDefect = true) :
    ∃ cause, causeOf answer = some cause ∧ cause.isDefect = true := by
  cases answer with
  | ok _ => cases mem
  | error error =>
    cases error with
    | invalidState cause =>
      refine ⟨cause, rfl, ?_⟩
      cases cause <;> simp [warningsOf, ReadError.warnings, InvalidState.warning?] at mem
      all_goals
        subst mem
        exact defect
    | _ => cases mem

/-- So does a read. -/
theorem Read.exists_cause_of_mem_log {α : Type} {read : Read α} {event : Event}
    (mem : event ∈ read.log) (defect : event.isDefect = true) :
    ∃ cause, causeOf read.answer = some cause ∧ cause.isDefect = true := by
  rcases List.mem_append.1 mem with reported | warned
  · obtain ⟨report, -, rfl⟩ := List.mem_map.1 reported
    cases defect
  · exact exists_cause_of_mem_warnings warned defect

namespace Session

variable {session : Session} {id : SiteId} {value : Value} {action : Action} {cause : InvalidState}

theorem exists_cause_of_siteAt {table : TableId} {place : Place} {name : String} {event : Event}
    (mem : event ∈ (session.siteAt table place name).events) (defect : event.isDefect = true) :
    ∃ cause, causeOf (session.siteAt table place name).answer = some cause ∧
      cause.isDefect = true := by
  unfold siteAt at mem ⊢
  split at mem
  · dsimp only at mem ⊢
    split at mem
    · cases mem
    · next other =>
      rw [if_neg other]
      refine exists_cause_of_mem_warnings ?_ defect
      exact mem
  · cases mem

/-- **No warning of a defect goes without its error.** -/
theorem exists_cause_of_warned {event : Event} (mem : event ∈ (session.perform action).events)
    (defect : event.isDefect = true) :
    ∃ cause, (session.perform action).answer.cause? = some cause ∧ cause.isDefect = true := by
  have silent {reports : List WorldEvent} (mem : event ∈ reports.map Event.world) : False := by
    obtain ⟨report, -, rfl⟩ := List.mem_map.1 mem
    cases defect
  cases action with
  | read | readInt | readFloat | readBool => exact Read.exists_cause_of_mem_log mem defect
  | siteAt table place name => exact exists_cause_of_siteAt mem defect
  | load table place name value =>
    simp only [perform, load] at mem ⊢
    split at mem
    · next found => exact Read.exists_cause_of_mem_log mem defect
    · next refused =>
      have warned := exists_cause_of_siteAt mem defect
      rwa [refused] at warned
  | setAttribute => exact (silent mem).elim
  | setSuperclass c superclass =>
    rw [perform] at mem
    split at mem
    · exact (silent mem).elim
    · cases mem
  | _ => cases mem

/-! ## Reads -/

/-- The reads of a value at a site. -/
def readsOf (id : SiteId) (value : Value) : List Action :=
  [.read id value, .readInt id value, .readFloat id value, .readBool id value]

/-- A test of the kind complains of no state. -/
theorem causeOf_resolveAs {α : Type} (session : Session) (id : SiteId) (value : Value)
    (kind : Kind) (part : Value → Option α) :
    causeOf (session.resolveAs id value kind part) = causeOf (session.resolveAt id value) := by
  rw [resolveAs]
  cases session.resolveAt id value with
  | error error => cases error <;> rfl
  | ok found =>
    dsimp only
    cases part found <;> rfl

/-- All reads of a value complain of what resolution by name complains of. -/
theorem Reachable.cause_of_reads (reached : session.Reachable)
    (hv : session.world.HasValue value) (reads : action ∈ readsOf id value) :
    (session.perform action).answer.cause? = causeOf (session.resolveAt id value) := by
  have typed {α : Type} (kind : Kind) (part : Value → Option α) :
      causeOf (session.readWith id fun world site =>
        (site.read world value).andThen (Site.expect world kind part)).answer =
        causeOf (session.resolveAt id value) := by
    rw [reached.answer_expect id hv kind part, causeOf_resolveAs]
  simp only [readsOf, List.mem_cons, List.not_mem_nil, or_false] at reads
  rcases reads with rfl | rfl | rfl | rfl
  · exact congrArg causeOf (reached.answer_read id hv)
  · exact typed .int Value.int?
  · exact typed .float Value.float?
  · exact typed .bool Value.bool?

/-- Resolution by name complains of a search that is too deep, and of nothing else. -/
theorem causeOf_resolveAt_iff : causeOf (session.resolveAt id value) = some cause ↔
    ∃ receiver, value.object? = some receiver ∧
      cause = .hierarchyTooDeep (session.site id).limits.hierarchy (session.site id).name ∧
      session.world.TooDeep (session.site id).limits.hierarchy receiver (session.site id).name := by
  rw [causeOf_eq_some_iff, resolveAt]
  cases object : value.object? with
  | none => simp [World.resolveValue, object, Except.map]
  | some receiver =>
    simp only [World.resolveValue, object, Option.some.injEq, exists_eq_left']
    rw [← World.resolve_eq_invalidState_iff]
    cases session.world.resolve _ receiver _ with
    | ok resolution => simp [Except.map]
    | error error => simp [Except.map]

/-- **No reply complains of a defect.** -/
theorem Reachable.not_isDefect_of_cause (reached : session.Reachable)
    (admitted : session.Admits action)
    (complains : (session.perform action).answer.cause? = some cause) :
    cause.isDefect = false := by
  have deep {session : Session} {id : SiteId} {value : Value}
      (complains : causeOf (session.resolveAt id value) = some cause) :
      cause.isDefect = false := by
    obtain ⟨receiver, -, rfl, -⟩ := causeOf_resolveAt_iff.1 complains
    rfl
  have reused {table : TableId} {place : Place} {name : String}
      (complains : causeOf (session.siteAt table place name).answer = some cause) :
      cause.isDefect = false := by
    unfold siteAt at complains
    split at complains
    · dsimp only at complains
      split at complains
      · cases complains
      · cases complains
        rfl
    · cases complains
  cases action with
  | read id value | readInt id value | readFloat id value | readBool id value =>
    rw [reached.cause_of_reads admitted.2 (show _ ∈ readsOf id value by simp [readsOf])]
      at complains
    exact deep complains
  | siteAt table place name => exact reused complains
  | load table place name value =>
    have there : session.Admits (.siteAt table place name) := admitted.1
    have located : (session.siteAt table place name).session.Reachable := reached.after there
    have hv : (session.siteAt table place name).session.world.HasValue value := by
      rw [world_siteAt]
      exact admitted.2
    simp only [perform, load] at complains
    split at complains
    · next id found =>
      change causeOf ((session.siteAt table place name).session.read id value).answer = _
        at complains
      rw [located.answer_read id hv] at complains
      exact deep complains
    · next error refused =>
      apply reused
      rw [refused]
      exact complains
  | setSuperclass c superclass =>
    rw [perform] at complains
    split at complains <;> cases complains
  | _ => cases complains

/-- **Defects of construction are out of reach.** Every resolution has a guard, which is of the kind
that the depth asks for and names as many classes as the depth says; in whatever world, and for any
receiver, the guard is checked and probed without error. No action replies with a defect, and none
warns of one. A read at a site ends in an invalid state exactly if its search is too deep: neither
the receiver nor any class within the limit of the site has the attribute, and there are more
classes. -/
theorem defects_unreachable (reached : session.Reachable) :
    (∀ limit receiver name resolution,
      session.world.resolve limit receiver name = .ok resolution →
      ∃ guard, Guard.ofResolution resolution = .ok guard ∧
        guard.kind = .ofDepth resolution.depth ∧ guard.hops.length = resolution.depth ∧
        ∀ (later : World) other location,
          (∃ outcome, guard.check later other = .ok outcome) ∧
            ∃ probe, guard.probe later other location = .ok probe) ∧
      (∀ action, session.Admits action →
        (∀ cause, (session.perform action).answer.cause? = some cause →
          cause.isDefect = false) ∧
        ∀ event ∈ (session.perform action).events, event.isDefect = false) ∧
      ∀ id value, session.world.HasValue value → ∀ action ∈ readsOf id value, ∀ cause,
        let site := session.site id
        (session.perform action).answer.cause? = some cause ↔
          ∃ receiver, value.object? = some receiver ∧
            cause = .hierarchyTooDeep site.limits.hierarchy site.name ∧
            session.world.TooDeep site.limits.hierarchy receiver site.name := by
  refine ⟨?_, ?_, ?_⟩
  · intro limit receiver name resolution resolved
    obtain ⟨guard, guarded, consistent⟩ := Guard.exists_ofResolution resolved
    refine ⟨guard, guarded, Site.kind_eq_ofDepth guarded,
      Guard.length_hops_ofResolution resolved guarded, fun later other location => ?_⟩
    exact ⟨consistent.check_ok later other, consistent.probe_ok later other location⟩
  · intro action admitted
    refine ⟨fun cause => reached.not_isDefect_of_cause admitted, fun event mem => ?_⟩
    by_contra defect
    obtain ⟨cause, complains, same⟩ := exists_cause_of_warned mem (eq_true_of_ne_false defect)
    rw [reached.not_isDefect_of_cause admitted complains] at same
    cases same
  · intro id value hv action reads cause
    rw [reached.cause_of_reads hv reads]
    exact causeOf_resolveAt_iff

/-- The three classes of a descent, and a site that may ask two of them. -/
def shallow : List Action := descent ++ [.newSite "x" ⟨4, 2, Nat.succ_pos 3, Nat.two_pos⟩]

/-- The attribute is three classes away. A guard for it stands the loss of the way, and the site
does not come so far, whatever kind of value it asks for. -/
theorem defects_unreachable_of_shallow :
    let session := empty.run shallow
    let cut := (session.after (.setSuperclass ⟨1⟩ none)).world
    let reading : Action := .readInt ⟨0⟩ (.object (.inst ⟨0⟩))
    (∃ guard : Guard, guard.kind = .chain ∧ guard.hops.length = 3 ∧
        ∃ outcome, guard.check cut (.inst ⟨0⟩) = .ok outcome) ∧
      (session.perform reading).answer.cause? = some (.hierarchyTooDeep 2 "x") ∧
      ∀ event ∈ (session.perform reading).events, event.isDefect = false := by
  intro session cut reading
  have reached : session.Reachable := ⟨shallow, by decide, rfl⟩
  obtain ⟨guards, sane, deep⟩ := defects_unreachable reached
  have resolved : session.world.resolve 3 (.inst ⟨0⟩) "x" = .ok ⟨3, ⟨.int, 0⟩, .int 1,
      .inherited ⟨⟨2⟩, .layout (.empty 0)⟩ [⟨⟨2⟩, ⟨2⟩⟩, ⟨⟨1⟩, ⟨1⟩⟩, ⟨⟨0⟩, ⟨3⟩⟩]⟩ := by rfl
  refine ⟨?_, ?_, ?_⟩
  · obtain ⟨guard, -, kind, hops, stands⟩ := guards 3 (.inst ⟨0⟩) "x" _ resolved
    exact ⟨guard, kind, hops, (stands cut (.inst ⟨0⟩) ⟨.int, 0⟩).1⟩
  · apply (deep ⟨0⟩ (.object (.inst ⟨0⟩)) (by decide) reading (by simp [reading, readsOf]) _).2
    exact ⟨.inst ⟨0⟩, rfl, rfl, by decide, by decide, by decide⟩
  · exact (sane reading (by decide)).2

end Session

end InlineCache
