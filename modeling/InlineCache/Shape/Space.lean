import InlineCache.Identity
import InlineCache.Shape

/-!
# The space of published shapes

Shapes are published in one space. A publication is numbered and records its transitions: the
successors published so far, by the name and the kind that each of them adds. Because an existing
transition is always followed, the same additions from the same empty shape lead to the same shape.

A registry owns one empty shape and counts the shapes that it published. Any registry may extend
any shape; what differs is the number that the new shape receives.

The count of a registry stands for a 32-bit word as long as it has published fewer than 2^32 shapes.

## Main definitions

* `Transition`, `Publication`, `Registry`, `ShapeSpace`: published shapes and their publishers
* `ShapeSpace.Published`: a shape is one of the published ones
* `ShapeSpace.withAttribute`: follow or publish the transition for a name and a kind
* `ShapeSpace.layOut`: follow or publish a whole signature
* `ShapeSpace.widen`: the layout in which a name is boxed

## Main results

* `signature_publish`: a new successor adds its name and kind
* `withAttribute_of_transition`: a published transition is followed, and nothing is published
-/

namespace InlineCache

/-- A published successor, and what it adds. -/
structure Transition where
  /-- The added name. -/
  name : String
  /-- The kind of its slot. -/
  kind : Kind
  /-- The successor. -/
  target : Shape
  deriving DecidableEq, Inhabited

/-- A published shape. -/
structure Publication where
  /-- The shape. -/
  shape : Shape
  /-- The successors published so far, the newest first. -/
  transitions : List Transition
  deriving DecidableEq, Inhabited

/-- A publisher of shapes: its empty shape, and the number for the next shape it publishes. -/
structure Registry where
  /-- The empty shape, on which every layout of this registry is built. -/
  root : Shape
  /-- The number of the next shape; also the number of shapes so far, the empty one included. -/
  nextId : Nat
  deriving DecidableEq, Inhabited

/-- All published shapes. -/
structure ShapeSpace where
  /-- The publications, by serial number. -/
  publications : Array Publication
  /-- The registries. -/
  registries : Array Registry
  deriving DecidableEq, Inhabited

namespace ShapeSpace

/-- Nothing published. -/
def empty : ShapeSpace := ⟨#[], #[]⟩

/-- The shape is the one published under its serial number. -/
def Published (space : ShapeSpace) (shape : Shape) : Prop :=
  space.publications[shape.serial]?.map Publication.shape = some shape

instance (space : ShapeSpace) (shape : Shape) : Decidable (space.Published shape) :=
  inferInstanceAs (Decidable (_ = _))

/-- Publishes an empty shape that no registry owns. -/
def publishRoot (space : ShapeSpace) : Shape × ShapeSpace :=
  let root := .empty space.publications.size
  (root, { space with publications := space.publications.push ⟨root, []⟩ })

/-- Opens a registry with an empty shape of its own. -/
def newRegistry (space : ShapeSpace) : RegistryId × ShapeSpace :=
  let (root, space) := space.publishRoot
  (⟨space.registries.size⟩, { space with registries := space.registries.push ⟨root, 1⟩ })

/-- The transitions out of a shape. -/
def transitionsOf (space : ShapeSpace) (shape : Shape) : List Transition :=
  (space.publications.getD shape.serial default).transitions

/-- The published successor of a shape that adds `name` in a slot of `kind`. -/
def transition? (space : ShapeSpace) (shape : Shape) (name : String) (kind : Kind) :
    Option Shape :=
  ((space.transitionsOf shape).find? fun t => t.name = name ∧ t.kind = kind).map Transition.target

/-- The empty shape of a registry. -/
def root (space : ShapeSpace) (registry : RegistryId) : Shape :=
  (space.registries.getD registry.index default).root

/-- The number of shapes that a registry published, its empty shape included. -/
def shapeCount (space : ShapeSpace) (registry : RegistryId) : Nat :=
  (space.registries.getD registry.index default).nextId

/-- Publishes a new successor of `base` under the next number of the registry. -/
def publish (space : ShapeSpace) (registry : RegistryId) (base : Shape) (name : String)
    (kind : Kind) : Shape × ShapeSpace :=
  let target := base.successor space.publications.size (space.shapeCount registry) name kind
  (target,
    { publications :=
        (space.publications.modify base.serial fun p =>
          { p with transitions := ⟨name, kind, target⟩ :: p.transitions }).push ⟨target, []⟩
      registries :=
        space.registries.modify registry.index fun r => { r with nextId := r.nextId + 1 } })

/-- The successor of `base` with one attribute more: the published one if there is one. -/
def withAttribute (space : ShapeSpace) (registry : RegistryId) (base : Shape) (name : String)
    (kind : Kind) : Shape × ShapeSpace :=
  match space.transition? base name kind with
  | some target => (target, space)
  | none => space.publish registry base name kind

/-- Adds the attributes of a signature in order. -/
def layOut (space : ShapeSpace) (registry : RegistryId) (base : Shape) :
    List (String × Kind) → Shape × ShapeSpace
  | [] => (base, space)
  | (name, kind) :: rest =>
    let (next, space) := space.withAttribute registry base name kind
    space.layOut registry next rest

/-- A signature in which every entry of that name is boxed. -/
def boxing (name : String) (signature : List (String × Kind)) : List (String × Kind) :=
  signature.map fun entry => if entry.1 = name then (entry.1, .boxed) else entry

/-- The layout of the same names in which `name` is boxed, built anew from the registry's empty
shape. A shape in which the name is absent, or boxed already, is its own widening. -/
def widen (space : ShapeSpace) (registry : RegistryId) (base : Shape) (name : String) :
    Shape × ShapeSpace :=
  match base.find? name with
  | some location =>
    if location.kind.isPrimitive then
      space.layOut registry (space.root registry) (boxing name base.signature)
    else (base, space)
  | none => (base, space)

/-! ## Laws -/

/-- A published successor adds its name and kind. -/
@[simp] theorem signature_publish (space : ShapeSpace) (registry : RegistryId) (base : Shape)
    (name : String) (kind : Kind) :
    (space.publish registry base name kind).1.signature = base.signature ++ [(name, kind)] := by
  simp [publish]

/-- A published transition is followed, and nothing is published. -/
theorem withAttribute_of_transition {space : ShapeSpace} {base target : Shape} {name : String}
    {kind : Kind} (h : space.transition? base name kind = some target) (registry : RegistryId) :
    space.withAttribute registry base name kind = (target, space) := by
  simp [withAttribute, h]

end ShapeSpace

end InlineCache
