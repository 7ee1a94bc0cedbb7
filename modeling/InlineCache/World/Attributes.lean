import InlineCache.World
import InlineCache.World.Event

/-!
# Writing attributes

A write goes to the store of its holder. A write that changes the layout of a class also renews the
token of that class; writing over a slot in place does not, since a captured slot stays good and
reads the new value.

## Main definitions

* `World.renewAssumption`: retire the token of a class and mint the next one
* `Step`: an answer, the reports, and the world afterwards
* `World.setAttribute`: the write
* `World.fetchIfShape`, `World.fetchIfStable`: reading a captured slot

## Main results

* `currentAssumption_renewAssumption`: the new token is the one just minted
* `setAttribute_answer`: the outcome is that of the store's write
-/

namespace InlineCache

/-- What an operation on the object world produces. -/
structure Step (α : Type) where
  /-- The answer. -/
  answer : α
  /-- The reports, in order. -/
  events : List WorldEvent
  /-- The world afterwards. -/
  world : World

namespace World

/-- Mints a token for the class and invalidates the one it held, which is the answer. -/
def renewAssumption (world : World) (c : ClassId) : Assumption × World :=
  let retired := world.currentAssumption c
  let (assumption, world) := world.mint
  let object := world.classObject c
  (retired, (world.putClass c { object with assumption }).invalidate retired |>.2)

/-- Writes an attribute of a holder. -/
def setAttribute (world : World) (registry : RegistryId) (holder : Holder) (name : String)
    (value : Value) : Step WriteOutcome :=
  let written := (world.store holder).set world.space registry name value
  let after := { world with space := written.space }.putStore holder written.store
  match holder with
  | .object (.cls c) =>
    if written.outcome.changedShape then
      let (retired, renewed) := after.renewAssumption c
      { answer := written.outcome
        events := [.layoutChanged (world.className c) name written.outcome retired]
        world := renewed }
    else ⟨written.outcome, [], after⟩
  | _ => ⟨written.outcome, [], after⟩

/-- Writes the attributes of a list in order. -/
def setAttributes (world : World) (registry : RegistryId) (holder : Holder) :
    List (String × Value) → List WorldEvent × World
  | [] => ([], world)
  | (name, value) :: rest =>
    let step := world.setAttribute registry holder name value
    let (events, world) := step.world.setAttributes registry holder rest
    (step.events ++ events, world)

/-- Reads a slot captured for a shape, provided the object still has that shape. -/
def fetchIfShape (world : World) (o : ObjectId) (shape : Shape) (location : Location) :
    Option Value :=
  (world.attributes o).fetchIfShape shape location

/-- Reads a slot of a class captured under a token, provided the token is still the one that the
class holds, and valid. -/
def fetchIfStable (world : World) (c : ClassId) (a : Assumption) (location : Location) :
    Option Value :=
  if world.currentAssumption c = a ∧ world.holds a then
    (world.attributes (.cls c)).fetch location
  else none

/-! ## Laws -/

/-- The outcome is that of the write to the store. -/
theorem setAttribute_answer (world : World) (registry : RegistryId) (holder : Holder)
    (name : String) (value : Value) :
    (world.setAttribute registry holder name value).answer =
      ((world.store holder).set world.space registry name value).outcome := by
  unfold setAttribute
  rcases holder with (_ | _ | _) | _ <;> try rfl
  dsimp only
  split <;> rfl

/-- A renewed class holds the token minted for it. -/
theorem currentAssumption_renewAssumption {world : World} {c : ClassId}
    (h : c.index < world.classes.size) :
    (world.renewAssumption c).2.currentAssumption c = world.mint.1 := by
  simp [renewAssumption, mint, invalidate, putClass, currentAssumption, classObject, h]

/-- A renewed class has retired the token that it held. -/
theorem not_holds_renewAssumption (world : World) (c : ClassId) :
    (world.renewAssumption c).2.holds (world.currentAssumption c) = false :=
  not_holds_invalidate _ _

end World

end InlineCache
