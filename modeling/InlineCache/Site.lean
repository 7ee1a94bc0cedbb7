import InlineCache.Counters
import InlineCache.Guard
import InlineCache.Limits

/-!
# Call sites

A call site reads one attribute name, from one receiver after another, and specializes itself to
the receivers that it meets. It keeps a list of cached nodes, each a guard and a slot. A read tries
the nodes in order, and the first one whose guard passes answers it; stale nodes are removed on the
way. A read that no node answers reaches the end of the list. There the attribute is resolved by
name, and as long as the site holds fewer nodes than its limit, the resolution becomes one node
more. A site that reaches its limit turns generic: from then on it resolves by name and adds
nothing.

## Main definitions

* `CachedNode`, `Terminal`, `Site`: a call site
* `SiteEvent`: what a site reports of a read
* `Profile`, `Classification`: the visible state of a site
* `Site.walk`: the way of a read along the cached nodes
* `Site.read`: one read, as a step from a site to a site
* `Site.readInt`, `Site.readFloat`, `Site.readBool`: reads of one kind

## Main results

* `walk_kept_sublist`: a walk only removes nodes
* `walk_position`: a walk that reaches the end has counted the nodes that it kept
-/

namespace InlineCache

/-- A guard, and the slot it protects. -/
structure CachedNode where
  /-- When the node applies. -/
  guard : Guard
  /-- The slot in the defining object. -/
  location : Location
  deriving DecidableEq

/-- How the list of nodes ends. -/
inductive Terminal where
  /-- There may be more nodes. -/
  | uninitialized
  /-- There will be no more. -/
  | generic
  deriving DecidableEq, Inhabited

/-- What a site reports of a read. -/
inductive SiteEvent where
  /-- The node at that position does not apply to the receiver. -/
  | missed (position : Nat)
  /-- The node at that position was stale and is gone. -/
  | pruned (position : Nat)
  /-- A node was added at that position, for an attribute `depth` classes away. -/
  | specialized (depth : Nat) (guard : GuardKind) (position : Nat)
  /-- The site turned generic with that many nodes. -/
  | generalized (cached : Nat)
  deriving DecidableEq

/-- The number of receivers that a site has specialized to. -/
inductive Classification where
  /-- None. -/
  | uninitialized
  /-- One. -/
  | monomorphic
  /-- Several. -/
  | polymorphic
  /-- More than the site keeps. -/
  | megamorphic
  deriving DecidableEq

/-- The visible state of a site. -/
structure Profile where
  /-- The kinds of the guards, the first one tried first. -/
  guards : List GuardKind
  /-- How the list ends. -/
  terminal : Terminal
  deriving DecidableEq

namespace Profile

/-- The number of cached nodes. -/
def size (profile : Profile) : Nat := profile.guards.length

/-- The site turned generic. -/
def isGeneric (profile : Profile) : Bool := profile.terminal == .generic

/-- How many receivers the site has specialized to. -/
def classification (profile : Profile) : Classification :=
  match profile.terminal, profile.guards with
  | .generic, _ => .megamorphic
  | .uninitialized, [] => .uninitialized
  | .uninitialized, [_] => .monomorphic
  | .uninitialized, _ => .polymorphic

end Profile

/-- A call site. -/
structure Site where
  /-- The attribute that it reads. -/
  name : String
  /-- Its limits. -/
  limits : Limits
  /-- The cached nodes, the first one tried first. -/
  nodes : List CachedNode
  /-- How the list ends. -/
  terminal : Terminal
  /-- What it counted. -/
  counters : Counters
  deriving DecidableEq

/-- One read: its answer, the reports in order, and the site afterwards. -/
structure Read (α : Type) where
  /-- The answer. -/
  answer : Except ReadError α
  /-- The reports. -/
  events : List SiteEvent
  /-- The site afterwards. -/
  site : Site

/-- A read whose answer is put to a further test. -/
def Read.andThen {α β : Type} (read : Read α) (test : α → Except ReadError β) : Read β where
  answer := read.answer.bind test
  events := read.events
  site := read.site

namespace Site

/-- A call site that has read nothing. -/
def new (name : String) (limits : Limits) : Site := ⟨name, limits, [], .uninitialized, .zero⟩

instance : Inhabited Site := ⟨new "" .standard⟩

/-- The visible state. -/
def profile (site : Site) : Profile :=
  ⟨site.nodes.map fun node => node.guard.kind, site.terminal⟩

/-- How many receivers the site has specialized to. -/
def classification (site : Site) : Classification := site.profile.classification

/-! ## The walk along the nodes -/

/-- How a walk ends. -/
inductive Ending where
  /-- A node answers. -/
  | hit (value : Value)
  /-- A node is in a state that should have been ruled out. -/
  | failed (error : ReadError)
  /-- No node answers; `position` nodes have been passed and kept. -/
  | fellOff (position : Nat)
  deriving DecidableEq

/-- What a walk along the nodes does. -/
structure Walk where
  /-- The nodes that are left. -/
  kept : List CachedNode
  /-- The reports, in order. -/
  events : List SiteEvent
  /-- The number of nodes that do not apply. -/
  misses : Nat
  /-- The number of nodes removed. -/
  prunes : Nat
  /-- How the walk ends. -/
  ending : Ending
  deriving DecidableEq

/-- Tries the nodes in order, with `position` nodes passed before. -/
def walk (world : World) (receiver : ObjectId) (position : Nat) : List CachedNode → Walk
  | [] => ⟨[], [], 0, 0, .fellOff position⟩
  | node :: rest =>
    match node.guard.probe world receiver node.location with
    | .ok (.hit value) => ⟨node :: rest, [], 0, 0, .hit value⟩
    | .ok .miss =>
      let w := walk world receiver (position + 1) rest
      { w with
        kept := node :: w.kept
        events := .missed position :: w.events
        misses := w.misses + 1 }
    | .ok .stale =>
      let w := walk world receiver position rest
      { w with
        events := .pruned position :: w.events
        prunes := w.prunes + 1 }
    | .error error => ⟨node :: rest, [], 0, 0, .failed error⟩

/-! ## The end of the list -/

/-- Resolves by name, at a site that adds no nodes. -/
def readGeneric (world : World) (receiver : ObjectId) (site : Site) : Read Value where
  answer := world.lookup site.limits.hierarchy receiver site.name
  events := []
  site := { site with counters := site.counters.addGenericRead }

/-- Gives up specializing with `position` nodes, and resolves by name. -/
def generalize (world : World) (receiver : ObjectId) (position : Nat) (site : Site) :
    Read Value :=
  let read := { site with
    terminal := .generic
    counters := site.counters.addGeneralization }.readGeneric world receiver
  { read with events := .generalized position :: read.events }

/-- Resolves by name and keeps the resolution as one node more. A failed resolution adds
nothing. -/
def specialize (world : World) (receiver : ObjectId) (position : Nat) (site : Site) :
    Read Value :=
  match world.resolve site.limits.hierarchy receiver site.name with
  | .error error => ⟨.error error, [], site⟩
  | .ok resolution =>
    match Guard.ofResolution resolution with
    | .error error => ⟨.error error, [], site⟩
    | .ok guard =>
      { answer := .ok resolution.value
        events := [.specialized resolution.depth guard.kind position]
        site := { site with
          nodes := site.nodes ++ [⟨guard, resolution.location⟩]
          counters := site.counters.addSpecialization } }

/-- What a read does at the end of the list, with `position` nodes passed. -/
def readTerminal (world : World) (receiver : ObjectId) (position : Nat) (site : Site) :
    Read Value :=
  match site.terminal with
  | .generic => site.readGeneric world receiver
  | .uninitialized =>
    if site.limits.chain ≤ position then site.generalize world receiver position
    else site.specialize world receiver position

/-! ## Reads -/

/-- Reads the attribute from an object. -/
def readObject (world : World) (receiver : ObjectId) (site : Site) : Read Value :=
  let walked := walk world receiver 0 site.nodes
  let counters := site.counters.addRead.addPassedOver walked.misses walked.prunes
  let site := { site with nodes := walked.kept, counters }
  match walked.ending with
  | .hit value => ⟨.ok value, walked.events, { site with counters := counters.addHit }⟩
  | .failed error => ⟨.error error, walked.events, site⟩
  | .fellOff position =>
    let read := site.readTerminal world receiver position
    { read with events := walked.events ++ read.events }

/-- **One read.** A value that is no object has no attributes, and the site takes no notice of
it. -/
def read (world : World) (value : Value) (site : Site) : Read Value :=
  match value.object? with
  | some receiver => site.readObject world receiver
  | none => ⟨.error (.noAttribute site.name (world.typeName value)), [], site⟩

/-- A part of a value that has to be there. -/
def expect {α : Type} (world : World) (kind : Kind) (part : Value → Option α) (value : Value) :
    Except ReadError α :=
  match part value with
  | some x => .ok x
  | none => .error (.unexpectedKind kind (world.display value))

/-- Reads an attribute that has to be an integer. -/
def readInt (world : World) (value : Value) (site : Site) : Read Int64 :=
  (site.read world value).andThen (expect world .int Value.int?)

/-- Reads an attribute that has to be a float; the answer is its bits. -/
def readFloat (world : World) (value : Value) (site : Site) : Read UInt64 :=
  (site.read world value).andThen (expect world .float Value.float?)

/-- Reads an attribute that has to be a boolean. -/
def readBool (world : World) (value : Value) (site : Site) : Read Bool :=
  (site.read world value).andThen (expect world .bool Value.bool?)

/-! ## Laws -/

/-- A walk only removes nodes. -/
theorem walk_kept_sublist (world : World) (receiver : ObjectId) (position : Nat)
    (nodes : List CachedNode) : (walk world receiver position nodes).kept.Sublist nodes := by
  induction nodes generalizing position with
  | nil => exact .slnil
  | cons node rest ih =>
    rw [walk]
    split
    · exact .refl _
    · exact (ih _).cons_cons _
    · exact (ih _).cons _
    · exact .refl _

/-- **A walk that reaches the end has counted the nodes that it kept.** -/
theorem walk_position {world : World} {receiver : ObjectId} {start position : Nat}
    {nodes : List CachedNode}
    (h : (walk world receiver start nodes).ending = .fellOff position) :
    position = start + (walk world receiver start nodes).kept.length := by
  induction nodes generalizing start with
  | nil => simpa [walk, eq_comm] using h
  | cons node rest ih =>
    rw [walk] at h ⊢
    split at h
    · simp at h
    · have := ih h
      simp only [List.length_cons]
      omega
    · exact ih h
    · simp at h

end Site

end InlineCache
