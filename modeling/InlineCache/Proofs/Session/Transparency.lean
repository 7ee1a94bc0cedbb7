import InlineCache.Proofs.Resolution.Persistence
import InlineCache.Proofs.Session.Growth

/-!
# Reads answer as resolution by name

Whatever a call site has cached, a read answers what resolution by name answers in the present
world, and changes nothing in it. A cached node keeps a resolution that was made once, in a world
that the present one extends. So if its guard hits, the answer is right; and a read that no node
answers resolves by name anyway. Every action keeps this invariant: nodes are added by resolving,
and the world only grows.

## Main definitions

* `CachedNode.Backed`, `Site.Backed`, `Session.Backed`: nodes keep resolutions that were made
* `Session.resolveAt`, `Session.resolveAs`: what a read at a site has to answer

## Main results

* `guard_hit_resolves`: a guard that hits, at any later moment and for any receiver, gives what
  resolution by name gives
* `Backed.answer_readObject`: a read at a backed site
* `Reachable.backed`: every site of a reachable session is backed
* `read_transparent`: reads answer as resolution by name
-/

namespace InlineCache

namespace Session

/-! ## Guards along histories -/

/-- **A guard hits only if it is right.** The guard of a resolution made at some moment may be
probed at any later moment, with any receiver. If it hits, resolving the name on that receiver gives
the same value, from the same slot of the same class, equally far away. -/
theorem guard_hit_resolves {session : Session} (reached : session.Reachable) {limit : Nat}
    {receiver : ObjectId} (hr : session.world.HasObject receiver) {name : String}
    {resolution : Resolution}
    (resolved : session.world.resolve limit receiver name = .ok resolution) :
    ∃ guard, Guard.ofResolution resolution = .ok guard ∧
      ∀ history, session.AdmitsAll history → ∀ other value,
        (session.run history).world.HasObject other →
        guard.probe (session.run history).world other resolution.location = .ok (.hit value) →
        ∃ again, (session.run history).world.resolve limit other name = .ok again ∧
          again.value = value ∧ again.depth = resolution.depth ∧
          again.location = resolution.location ∧
          again.definingClass = resolution.definingClass := by
  obtain ⟨guard, guarded, -⟩ := Guard.exists_ofResolution resolved
  refine ⟨guard, guarded, fun history admitted other value ho hit => ?_⟩
  exact resolve_of_probe_hit reached.sound (reached.run admitted).sound
    (reached.extends_run admitted) hr ho resolved guarded hit

/-- Two instances of a class with an attribute. -/
def siblings : List Action :=
  [.newRegistry, .newClass ⟨0⟩ "Point" none, .newInstance ⟨0⟩ ⟨0⟩, .newInstance ⟨0⟩ ⟨0⟩,
    .setAttribute ⟨0⟩ (.object (.cls ⟨0⟩)) "x" (.int 1)]

/-- The attribute as the first of them finds it. -/
def siblingAttribute : Resolution where
  depth := 1
  location := ⟨.int, 0⟩
  value := .int 1
  placement := .inherited ⟨⟨0⟩, .layout (.empty 0)⟩ [⟨⟨0⟩, ⟨1⟩⟩]

/-- The guard made for the first instance hits for the second, once the attribute is written
again. -/
theorem guard_hit_resolves_for_sibling :
    let rewrite := [Action.setAttribute ⟨0⟩ (.object (.cls ⟨0⟩)) "x" (.int 2)]
    let later := ((empty.run siblings).run rewrite).world
    ∃ guard, Guard.ofResolution siblingAttribute = .ok guard ∧
      guard.probe later (.inst ⟨1⟩) siblingAttribute.location = .ok (.hit (.int 2)) ∧
      ∃ again, later.resolve 8 (.inst ⟨1⟩) "x" = .ok again ∧ again.value = .int 2 ∧
        again.depth = 1 ∧ again.location = ⟨.int, 0⟩ ∧ again.definingClass = some ⟨0⟩ := by
  intro rewrite later
  have reached : (empty.run siblings).Reachable := ⟨siblings, by decide, rfl⟩
  have resolved : (empty.run siblings).world.resolve 8 (.inst ⟨0⟩) "x" =
      .ok siblingAttribute := by rfl
  obtain ⟨guard, guarded, sound⟩ := guard_hit_resolves reached (by decide) resolved
  have hit : guard.probe later (.inst ⟨1⟩) siblingAttribute.location = .ok (.hit (.int 2)) := by
    cases guarded
    rfl
  exact ⟨guard, guarded, hit, sound rewrite (by decide) (.inst ⟨1⟩) (.int 2) (by decide) hit⟩

end Session

/-! ## Backed nodes -/

/-- The node keeps a resolution of the name that was made once, in a world that this one extends. -/
def CachedNode.Backed (world : World) (limit : Nat) (name : String) (node : CachedNode) : Prop :=
  ∃ earlier receiver resolution, earlier.Sound ∧ World.Extends earlier world ∧
    earlier.HasObject receiver ∧ earlier.resolve limit receiver name = .ok resolution ∧
    Guard.ofResolution resolution = .ok node.guard ∧ node.location = resolution.location

section Node

variable {world later : World} {limit : Nat} {name : String} {node : CachedNode}
  {receiver : ObjectId}

theorem CachedNode.Backed.mono (backed : node.Backed world limit name)
    (ext : world.Extends later) : node.Backed later limit name := by
  obtain ⟨earlier, receiver, resolution, sound, before, rest⟩ := backed
  exact ⟨earlier, receiver, resolution, sound, before.trans sound ext, rest⟩

/-- A backed node is checked without error. -/
theorem CachedNode.Backed.probe_ok (backed : node.Backed world limit name) (receiver : ObjectId) :
    ∃ probe, node.guard.probe world receiver node.location = .ok probe := by
  obtain ⟨earlier, first, resolution, -, -, -, resolved, guarded, -⟩ := backed
  obtain ⟨guard, guarded', consistent⟩ := Guard.exists_ofResolution resolved
  cases guarded.symm.trans guarded'
  exact consistent.probe_ok world receiver node.location

/-- A backed node that hits is right. -/
theorem CachedNode.Backed.lookup_of_hit (backed : node.Backed world limit name)
    (sound : world.Sound) (hr : world.HasObject receiver) {value : Value}
    (hit : node.guard.probe world receiver node.location = .ok (.hit value)) :
    world.lookup limit receiver name = .ok value := by
  obtain ⟨earlier, first, resolution, before, ext, hf, resolved, guarded, slot⟩ := backed
  rw [slot] at hit
  obtain ⟨again, resolved', rfl, -⟩ :=
    resolve_of_probe_hit before sound ext hf hr resolved guarded hit
  rw [World.lookup, resolved']
  rfl

end Node

namespace Site

/-- All nodes of the site keep resolutions of its name, made under its limit. -/
def Backed (world : World) (site : Site) : Prop :=
  ∀ node ∈ site.nodes, node.Backed world site.limits.hierarchy site.name

variable {world later : World} {site : Site} {receiver : ObjectId} {position : Nat}
  {nodes : List CachedNode}

theorem Backed.mono (backed : site.Backed world) (ext : world.Extends later) :
    site.Backed later :=
  fun node h => (backed node h).mono ext

/-! ## The walk along the nodes -/

/-- A walk stops before the end only at a node that hits or fails. -/
theorem walk_stops (world : World) (receiver : ObjectId) (position : Nat)
    (nodes : List CachedNode) :
    (∃ passed, (walk world receiver position nodes).ending = .fellOff passed) ∨
      ∃ node ∈ nodes,
        (∃ value, node.guard.probe world receiver node.location = .ok (.hit value) ∧
          (walk world receiver position nodes).ending = .hit value) ∨
        ∃ error, node.guard.probe world receiver node.location = .error error ∧
          (walk world receiver position nodes).ending = .failed error := by
  induction nodes generalizing position with
  | nil => exact .inl ⟨position, rfl⟩
  | cons node rest ih =>
    rw [walk]
    split
    · next value hit => exact .inr ⟨node, List.mem_cons_self .., .inl ⟨value, hit, rfl⟩⟩
    · rcases ih (position + 1) with fell | ⟨other, mem, stops⟩
      · exact .inl fell
      · exact .inr ⟨other, List.mem_cons_of_mem _ mem, stops⟩
    · rcases ih position with fell | ⟨other, mem, stops⟩
      · exact .inl fell
      · exact .inr ⟨other, List.mem_cons_of_mem _ mem, stops⟩
    · next error failed => exact .inr ⟨node, List.mem_cons_self .., .inr ⟨error, failed, rfl⟩⟩

/-! ## The end of the list -/

/-- At the end of the list the attribute is resolved by name, whatever is done about it. -/
theorem answer_readTerminal (world : World) (receiver : ObjectId) (position : Nat) (site : Site) :
    (site.readTerminal world receiver position).answer =
      world.lookup site.limits.hierarchy receiver site.name := by
  unfold readTerminal
  split
  · rfl
  · split
    · rfl
    · rw [specialize, World.lookup]
      split
      · next resolved => rw [resolved]; rfl
      · next resolved =>
        obtain ⟨guard, guarded, -⟩ := Guard.exists_ofResolution resolved
        rw [resolved, guarded]
        rfl

/-- A node that is added keeps a resolution made in the present world. -/
theorem Backed.readTerminal (backed : site.Backed world) (sound : world.Sound)
    (hr : world.HasObject receiver) (position : Nat) :
    (site.readTerminal world receiver position).site.Backed world := by
  unfold Site.readTerminal
  split
  · exact backed
  · split
    · exact backed
    · rw [specialize]
      split
      · exact backed
      · next resolved =>
        split
        · exact backed
        · next guarded =>
          intro node mem
          rcases List.mem_append.1 mem with old | new
          · exact backed node old
          · rw [List.mem_singleton.1 new]
            exact ⟨world, receiver, _, sound, .refl world, hr, resolved, guarded, rfl⟩

/-! ## Reads -/

/-- The nodes that a walk keeps stay backed. -/
theorem Backed.walked (backed : site.Backed world) (receiver : ObjectId) (counters : Counters) :
    { site with nodes := (walk world receiver 0 site.nodes).kept, counters }.Backed world :=
  fun node mem => backed node ((walk_kept_sublist ..).subset mem)

/-- **A read at a backed site** answers as resolution by name. -/
theorem Backed.answer_readObject (backed : site.Backed world) (sound : world.Sound)
    (hr : world.HasObject receiver) :
    (site.readObject world receiver).answer =
      world.lookup site.limits.hierarchy receiver site.name := by
  unfold readObject
  rcases walk_stops world receiver 0 site.nodes with
    ⟨passed, fell⟩ | ⟨node, mem, ⟨value, hit, ended⟩ | ⟨error, failed, -⟩⟩
  · simp only [fell]
    exact answer_readTerminal ..
  · simp only [ended]
    exact ((backed node mem).lookup_of_hit sound hr hit).symm
  · obtain ⟨probe, probed⟩ := (backed node mem).probe_ok receiver
    exact nomatch failed.symm.trans probed

theorem Backed.readObject (backed : site.Backed world) (sound : world.Sound)
    (hr : world.HasObject receiver) : (site.readObject world receiver).site.Backed world := by
  unfold Site.readObject
  dsimp only
  split
  · exact backed.walked receiver _
  · exact backed.walked receiver _
  · exact (backed.walked receiver _).readTerminal sound hr _

theorem Backed.answer_read (backed : site.Backed world) (sound : world.Sound) {value : Value}
    (hv : world.HasValue value) :
    (site.read world value).answer =
      (world.resolveValue site.limits.hierarchy value site.name).map Resolution.value := by
  unfold read World.resolveValue
  cases object : value.object? with
  | none => rfl
  | some receiver => exact backed.answer_readObject sound (hv receiver object)

theorem Backed.read (backed : site.Backed world) (sound : world.Sound) {value : Value}
    (hv : world.HasValue value) : (site.read world value).site.Backed world := by
  unfold Site.read
  split
  · next receiver object => exact backed.readObject sound (hv receiver object)
  · exact backed

end Site

/-! ## Sessions -/

namespace Session

variable {session : Session} {id other : SiteId} {value : Value}

/-- All sites of the session are backed. -/
def Backed (session : Session) : Prop := ∀ id, (session.site id).Backed session.world

theorem backed_empty : Backed empty := by
  rintro id node mem
  simp [site, empty, default, Site.new] at mem

/-- Sites stay backed while the object world grows. -/
theorem Backed.withWorld (backed : session.Backed) {world : World}
    (ext : session.world.Extends world) : (session.withWorld world).Backed :=
  fun id => (backed id).mono ext

theorem Backed.newSite (backed : session.Backed) (name : String) (limits : Limits) :
    (session.newSite name limits).2.Backed := by
  intro id
  by_cases fresh : id.index = session.sites.size
  · have here : (session.newSite name limits).2.site id = .new name limits := by
      simp [Session.newSite, site, fresh]
    rw [here]
    rintro node ⟨⟩
  · have there : (session.newSite name limits).2.site id = session.site id := by
      simp [Session.newSite, site, Array.getElem?_push, fresh]
    rw [there]
    exact backed id

/-- A read replaces one site. -/
theorem Backed.readWith {α : Type} (backed : session.Backed) (id : SiteId)
    {perform : World → Site → Read α}
    (kept : (perform session.world (session.site id)).site.Backed session.world) :
    (session.readWith id perform).session.Backed := by
  intro other
  show (site (session.readWith id perform).session other).Backed session.world
  by_cases here : id.index = other.index ∧ id.index < session.sites.size
  · have replaced : site (session.readWith id perform).session other =
        (perform session.world (session.site id)).site := by
      simp [Session.readWith, site, ← here.1, here.2]
    exact replaced ▸ kept
  · have untouched : site (session.readWith id perform).session other = session.site other := by
      simp only [Session.readWith, site, Array.getD_eq_getD_getElem?, Array.getElem?_setIfInBounds]
      split
      · next same =>
        have out : ¬ other.index < session.sites.size := fun lt => here ⟨same, same ▸ lt⟩
        rw [same, if_neg out, Array.getElem?_eq_none (Nat.le_of_not_lt out)]
      · rfl
    exact untouched ▸ backed other

theorem Backed.read (backed : session.Backed) (sound : session.world.Sound) (id : SiteId)
    (hv : session.world.HasValue value) : (session.read id value).session.Backed :=
  backed.readWith id ((backed id).read sound hv)

/-- A test of the answer makes no difference to the site. -/
theorem Backed.readAndThen {α : Type} (backed : session.Backed) (sound : session.world.Sound)
    (id : SiteId) (hv : session.world.HasValue value)
    (test : World → Value → Except ReadError α) :
    (session.readWith id fun world site =>
      (site.read world value).andThen (test world)).session.Backed :=
  backed.readWith id ((backed id).read sound hv)

theorem Backed.siteAt (backed : session.Backed) (t : TableId) (place : Place) (name : String) :
    (session.siteAt t place name).session.Backed := by
  unfold Session.siteAt
  split
  · dsimp only
    split <;> exact backed
  · exact backed.newSite name _

/-- Every action keeps the sites backed. -/
theorem Backed.after (backed : session.Backed) (sound : session.world.Sound) {action : Action}
    (admitted : session.Admits action) : (session.after action).Backed := by
  have ext := (grows_after sound admitted).ext
  cases action with
  -- Actions on the object world touch no site, and the world only grows.
  | newRegistry | newClass | newInstance | newModule | newStore | newStoreOn | copyStore
  | setAttribute | mint | invalidate | publishRoot | withAttribute | widen =>
    exact backed.withWorld ext
  | setSuperclass c superclass =>
    rw [Session.after, perform] at ext ⊢
    split at ext
    · exact backed.withWorld ext
    · exact backed
  | newSite name limits => exact backed.newSite name limits
  | read id value => exact backed.read sound id admitted.2
  | readInt id value =>
    exact backed.readAndThen sound id admitted.2 fun world => Site.expect world .int Value.int?
  | readFloat id value =>
    exact backed.readAndThen sound id admitted.2 fun world => Site.expect world .float Value.float?
  | readBool id value =>
    exact backed.readAndThen sound id admitted.2 fun world => Site.expect world .bool Value.bool?
  | newTable | clearTable => exact backed
  | siteAt table place name => exact backed.siteAt table place name
  | load table place name value =>
    have found := backed.siteAt table place name
    rw [Session.after, perform, Session.load]
    dsimp only
    split
    · next id _ =>
      have kept := world_siteAt session table place name
      exact found.read (kept ▸ sound) id (kept ▸ admitted.2)
    · exact found

/-- **Every site of a reachable session is backed.** -/
theorem Reachable.backed (reached : session.Reachable) : session.Backed :=
  Reachable.induction (motive := Backed) backed_empty
    (fun _ _ reached backed admitted => backed.after reached.sound admitted) reached

/-! ## Transparency -/

/-- What a read at the site has to answer: the value that resolution by name finds. -/
def resolveAt (session : Session) (id : SiteId) (value : Value) : Except ReadError Value :=
  let site := session.site id
  (session.world.resolveValue site.limits.hierarchy value site.name).map Resolution.value

/-- What a read of one kind has to answer: the part of the value, or an error with its text. -/
def resolveAs {α : Type} (session : Session) (id : SiteId) (value : Value) (kind : Kind)
    (part : Value → Option α) : Except ReadError α :=
  match session.resolveAt id value with
  | .error error => .error error
  | .ok found =>
    match part found with
    | some x => .ok x
    | none => .error (.unexpectedKind kind (session.world.display found))

theorem Reachable.answer_read (reached : session.Reachable) (id : SiteId)
    (hv : session.world.HasValue value) :
    (session.read id value).answer = session.resolveAt id value :=
  (reached.backed id).answer_read reached.sound hv

/-- A test of the answer is a test of what resolution by name finds. -/
theorem Reachable.answer_expect {α : Type} (reached : session.Reachable) (id : SiteId)
    (hv : session.world.HasValue value) (kind : Kind) (part : Value → Option α) :
    (session.readWith id fun world site =>
        (site.read world value).andThen (Site.expect world kind part)).answer =
      session.resolveAs id value kind part := by
  have answered := reached.answer_read id hv
  show (session.read id value).answer.bind _ = _
  rw [answered, resolveAs]
  cases session.resolveAt id value with
  | error error => rfl
  | ok found => rfl

/-- **Reads answer as resolution by name**, at any site of any reachable session and for any value,
and change nothing in the object world. -/
theorem read_transparent (reached : session.Reachable) (id : SiteId)
    (hv : session.world.HasValue value) :
    ((session.read id value).answer = session.resolveAt id value ∧
      (session.readInt id value).answer = session.resolveAs id value .int Value.int? ∧
      (session.readFloat id value).answer = session.resolveAs id value .float Value.float? ∧
      (session.readBool id value).answer = session.resolveAs id value .bool Value.bool?) ∧
    (session.read id value).session.world = session.world ∧
      (session.readInt id value).session.world = session.world ∧
      (session.readFloat id value).session.world = session.world ∧
      (session.readBool id value).session.world = session.world := by
  refine ⟨⟨reached.answer_read id hv, ?_, ?_, ?_⟩, rfl, rfl, rfl, rfl⟩
  · exact reached.answer_expect id hv .int Value.int?
  · exact reached.answer_expect id hv .float Value.float?
  · exact reached.answer_expect id hv .bool Value.bool?

/-- A site that specialized to the attribute follows it when its slot is widened. -/
theorem read_transparent_after_widening :
    let session := empty.run (siblings ++ [.newSite "x" .standard,
      .read ⟨0⟩ (.object (.inst ⟨0⟩)),
      .setAttribute ⟨0⟩ (.object (.cls ⟨0⟩)) "x" (.bool true)])
    (session.read ⟨0⟩ (.object (.inst ⟨0⟩))).answer = .ok (.bool true) ∧
      (session.readBool ⟨0⟩ (.object (.inst ⟨0⟩))).answer = .ok true ∧
      (session.readInt ⟨0⟩ (.object (.inst ⟨0⟩))).answer =
        .error (.unexpectedKind .int "True") := by
  intro session
  have reached : session.Reachable := ⟨_, by decide, rfl⟩
  have created : session.world.HasValue (.object (.inst ⟨0⟩)) := by decide
  obtain ⟨⟨read, readInt, -, readBool⟩, -⟩ := read_transparent reached ⟨0⟩ created
  exact ⟨read.trans rfl, readBool.trans rfl, readInt.trans rfl⟩

end Session

end InlineCache
