import InlineCache.World.Attributes

/-!
# The class hierarchy

Every class has at most one superclass, and no class is its own ancestor: giving a class a
superclass that already inherits from it is refused. So following superclasses ends, at the latest
when every class has been visited.

## Main definitions

* `World.lineage`: a class and its ancestors, nearest first
* `World.Inherits`: the reflexive and transitive closure of the superclass link
* `World.isSubclassOf`: inheritance, decided along the lineage
* `CycleError`, `World.setSuperclass`: the guarded change of a superclass

## Main results

* `inherits_of_mem_lineage`: whatever the lineage lists is an ancestor
* `setSuperclass_eq_error_iff`: a change is refused exactly if the candidate inherits from the class
-/

namespace InlineCache

namespace World

/-- At most `fuel` classes of the chain of superclasses that starts at `first`. -/
def lineageWithin (world : World) : Nat → Option ClassId → List ClassId
  | 0, _ => []
  | _, none => []
  | fuel + 1, some c => c :: world.lineageWithin fuel (world.superclass c)

/-- The chain of superclasses that starts at `first`, nearest first. A chain without repetition has
no more classes than there are. -/
def lineage (world : World) (first : Option ClassId) : List ClassId :=
  world.lineageWithin world.classes.size first

/-- A class inherits from itself and from whatever its superclass inherits from. -/
inductive Inherits (world : World) : ClassId → ClassId → Prop where
  /-- A class inherits from itself. -/
  | refl (c : ClassId) : Inherits world c c
  /-- A class inherits from the ancestors of its superclass. -/
  | step {a b c : ClassId} (link : world.superclass a = some b) (rest : Inherits world b c) :
      Inherits world a c

/-- The class `a` is `b` or inherits from it. -/
def isSubclassOf (world : World) (a b : ClassId) : Bool :=
  a == b || (world.lineage (world.superclass a)).contains b

/-- The superclass of `a` is exactly `b`. -/
def hasSuperclass (world : World) (a b : ClassId) : Bool := world.superclass a == some b

end World

/-- A refused change of superclass, which would have made a class its own ancestor. -/
structure CycleError where
  /-- The name of the class that was to be changed. -/
  className : String
  /-- The name of the superclass it was to get. -/
  superclass : String
  deriving DecidableEq

/-- The text of the refusal. -/
def CycleError.message (e : CycleError) : String :=
  "cannot make '" ++ e.superclass ++ "' the base of '" ++ e.className ++
    "': the hierarchy would contain a cycle"

namespace World

/-- Gives a class another superclass, or none, and renews its token, also if the superclass is the
one it had. A superclass that inherits from the class is refused, and nothing changes. -/
def setSuperclass (world : World) (c : ClassId) (superclass : Option ClassId) :
    Except CycleError (Step Unit) :=
  if superclass.any fun candidate => world.isSubclassOf candidate c then
    .error ⟨world.className c, (superclass.map world.className).getD ""⟩
  else
    let object := world.classObject c
    let (retired, renewed) := (world.putClass c { object with superclass }).renewAssumption c
    .ok {
      answer := ()
      events :=
        [.superclassChanged (world.className c) (superclass.map world.className) retired]
      world := renewed }

/-! ## Laws -/

/-- Whatever the lineage lists is an ancestor of its first class. -/
theorem inherits_of_mem_lineage {world : World} {fuel : Nat} {a c : ClassId}
    (h : c ∈ world.lineageWithin fuel (some a)) : world.Inherits a c := by
  induction fuel generalizing a with
  | zero => simp [lineageWithin] at h
  | succ fuel ih =>
    rw [lineageWithin, List.mem_cons] at h
    rcases h with rfl | h
    · exact .refl _
    · cases hs : world.superclass a with
      | none => cases fuel <;> simp [hs, lineageWithin] at h
      | some b => exact .step hs (ih (hs ▸ h))

/-- Following two chains of superclasses in turn is following one. -/
theorem Inherits.trans {world : World} {a b c : ClassId} (first : world.Inherits a b)
    (second : world.Inherits b c) : world.Inherits a c := by
  induction first with
  | refl => exact second
  | step link _ ih => exact .step link (ih second)

/-- What the test calls a subclass inherits. -/
theorem inherits_of_isSubclassOf {world : World} {a b : ClassId}
    (h : world.isSubclassOf a b = true) : world.Inherits a b := by
  simp only [isSubclassOf, Bool.or_eq_true, beq_iff_eq, List.contains_iff_mem] at h
  rcases h with rfl | h
  · exact .refl _
  · cases hs : world.superclass a with
    | none => rw [lineage, hs] at h; cases hn : world.classes.size <;> simp [hn, lineageWithin] at h
    | some c => exact .step hs (inherits_of_mem_lineage (hs ▸ h))

/-- **A change is refused exactly if the candidate is the class or inherits from it.** -/
theorem setSuperclass_eq_error_iff {world : World} {c : ClassId} {superclass : Option ClassId} :
    (∃ e, world.setSuperclass c superclass = .error e) ↔
      ∃ candidate, superclass = some candidate ∧ world.isSubclassOf candidate c = true := by
  unfold setSuperclass
  cases superclass with
  | none => simp
  | some candidate => by_cases h : world.isSubclassOf candidate c <;> simp [h]

end World

end InlineCache
