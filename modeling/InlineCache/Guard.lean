import InlineCache.Resolution

/-!
# Guards

A guard decides whether a resolution made before still answers a read now. What it has to check
depends on how far away the attribute was found: the layout of the receiver for an own attribute,
the receiver and one class for an attribute of the nearest class, and the receiver and every link
of the way for anything farther.

A guard that does not pass is a miss, if the receiver is not the one it was made for, or stale, if
it is but a token on the way was invalidated.

## Main definitions

* `GuardKind`, `GuardOutcome`, `Probe`: the three kinds, the three outcomes, and a guarded fetch
* `ReceiverCheck.check`: the test of the receiver
* `Guard`: a guard, with `Guard.check` and `Guard.probe`
* `Guard.tokens`: what it captured of the classes on the way
* `Guard.ofResolution`: the guard of a resolution

## Main results

* `kind_ofResolution`: the depth of a resolution decides the kind of its guard
-/

namespace InlineCache

/-- The kind of a guard. -/
inductive GuardKind where
  /-- An own attribute. -/
  | layout
  /-- An attribute of the nearest class. -/
  | cls
  /-- An attribute farther away. -/
  | chain
  deriving DecidableEq

/-- The name of the kind, as the event log gives it. -/
def GuardKind.label : GuardKind → String
  | layout => "Layout"
  | cls => "Class"
  | chain => "Chain"

/-- What a check finds. -/
inductive GuardOutcome where
  /-- The captured slot still answers. -/
  | pass
  /-- The receiver is another one. -/
  | miss
  /-- A captured token was invalidated. -/
  | stale
  deriving DecidableEq

/-- What a guarded fetch finds. -/
inductive Probe where
  /-- The guard passed, and this is the value. -/
  | hit (value : Value)
  /-- The receiver is another one. -/
  | miss
  /-- A captured token was invalidated. -/
  | stale
  deriving DecidableEq

/-- A check that did not pass, as a fetch: a pass without a value counts as stale. -/
def Probe.ofOutcome : GuardOutcome → Probe
  | .miss => miss
  | _ => stale

/-- A fetch that may find nothing. -/
def Probe.ofFetch : Option Value → Probe
  | some value => hit value
  | none => stale

/-- Checks that a receiver is the one a resolution was made for: an instance of the class with the
same layout, or the class itself under the same token. -/
def ReceiverCheck.check (world : World) (receiver : ObjectId) (captured : ReceiverCheck) :
    GuardOutcome :=
  match receiver, captured.stable with
  | .inst i, .layout shape =>
    if world.classOf i = captured.owner ∧ (world.layout receiver).same shape then .pass else .miss
  | .cls c, .token a =>
    if c ≠ captured.owner then .miss else if world.holds a then .pass else .stale
  | _, _ => .miss

/-- The token of a receiver that is a class. -/
def ReceiverCheck.tokens (captured : ReceiverCheck) : List Assumption :=
  match captured.stable with
  | .layout _ => []
  | .token a => [a]

/-- The guard of a cached resolution. -/
inductive Guard where
  /-- The receiver has this layout. -/
  | layout (shape : Shape)
  /-- The receiver is the one captured, and so is the class it inherits from. -/
  | cls (receiver : ReceiverCheck) (definer : Hop)
  /-- The receiver is the one captured, and so is every class on the way. -/
  | chain (receiver : ReceiverCheck) (hops : List Hop) (depth : Nat)
  deriving DecidableEq

namespace World

/-- The classes hold their captured tokens, valid ones, and each is the superclass of the one
before. -/
def hopsHold (world : World) : List Hop → Bool
  | [] => true
  | [hop] => world.holds hop.assumption
  | hop :: next :: rest =>
    world.holds hop.assumption && world.hasSuperclass hop.cls next.cls &&
      world.hopsHold (next :: rest)

/-- The first class on the way is the owner, or the owner's superclass. -/
def startsAt (world : World) (owner : ClassId) : List Hop → Bool
  | [] => true
  | hop :: _ => owner == hop.cls || world.hasSuperclass owner hop.cls

end World

namespace Guard

/-- The kind of the guard. -/
def kind : Guard → GuardKind
  | layout _ => .layout
  | cls _ _ => .cls
  | chain _ _ _ => .chain

/-- The guard of a resolution. Depth and placement have to agree. -/
def ofResolution (resolution : Resolution) : Except ReadError Guard :=
  match resolution.placement, resolution.depth with
  | .own shape, 0 => .ok (layout shape)
  | .inherited receiver [hop], 1 => .ok (cls receiver hop)
  | .inherited receiver hops, depth =>
    if 1 < depth then .ok (chain receiver hops depth)
    else .error (.invalidState (.mismatchedPlacement depth))
  | .own _, depth => .error (.invalidState (.mismatchedPlacement depth))

/-- Checks a chain of classes: the receiver first, then the way from its class to the definer. -/
def checkChain (world : World) (receiver : ObjectId) (captured : ReceiverCheck) (hops : List Hop)
    (depth : Nat) : Except ReadError GuardOutcome :=
  if depth = 0 ∨ hops.length ≠ depth then
    .error (.invalidState (.inconsistentChain depth hops.length))
  else
    match captured.check world receiver with
    | .pass =>
      if world.startsAt captured.owner hops && world.hopsHold hops then .ok .pass else .ok .stale
    | outcome => .ok outcome

/-- Checks the guard against a receiver. -/
def check (world : World) (receiver : ObjectId) : Guard → Except ReadError GuardOutcome
  | layout shape => .ok (if (world.layout receiver).same shape then .pass else .miss)
  | cls captured definer =>
    match captured.check world receiver with
    | .pass => .ok (if world.holds definer.assumption then .pass else .stale)
    | outcome => .ok outcome
  | chain captured hops depth => checkChain world receiver captured hops depth

/-- Reads the captured slot of a defining class under its captured token. -/
def fetchFrom (world : World) (definer : Hop) (location : Location) : Probe :=
  .ofFetch (world.fetchIfStable definer.cls definer.assumption location)

/-- Checks the guard and, if it passes, fetches the value at `location`. -/
def probe (world : World) (receiver : ObjectId) (location : Location) (guard : Guard) :
    Except ReadError Probe :=
  match guard with
  | layout shape =>
    match world.fetchIfShape receiver shape location with
    | some value => .ok (.hit value)
    | none => .ok .miss
  | cls _ definer =>
    match guard.check world receiver with
    | .ok .pass => .ok (fetchFrom world definer location)
    | .ok outcome => .ok (.ofOutcome outcome)
    | .error e => .error e
  | chain _ hops _ =>
    match guard.check world receiver with
    | .ok .pass =>
      match hops.getLast? with
      | some definer => .ok (fetchFrom world definer location)
      | none => .error (.invalidState .noDefiner)
    | .ok outcome => .ok (.ofOutcome outcome)
    | .error e => .error e

/-- The tokens that the guard captured. -/
def tokens : Guard → List Assumption
  | layout _ => []
  | cls receiver definer => receiver.tokens ++ [definer.assumption]
  | chain receiver hops _ => receiver.tokens ++ hops.map Hop.assumption

/-! ## Laws -/

/-- **The depth of a resolution decides the kind of its guard.** -/
theorem kind_ofResolution {resolution : Resolution} {guard : Guard}
    (h : ofResolution resolution = .ok guard) :
    guard.kind = if resolution.depth = 0 then .layout
      else if resolution.depth = 1 then .cls else .chain := by
  unfold ofResolution at h
  split at h
  · next h₂ => cases h; simp [kind, h₂]
  · next h₂ => cases h; simp [kind, h₂]
  · next h₂ =>
    split at h
    · next hd =>
      cases h
      have h₀ : resolution.depth ≠ 0 := by omega
      have h₁ : resolution.depth ≠ 1 := by omega
      simp [kind, h₀, h₁]
    · simp at h
  · simp at h

end Guard

end InlineCache
