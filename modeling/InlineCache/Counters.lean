/-!
# Counters

What a call site counts about its reads, sums of such counts, and rates. A rate is a percentage in
single precision: both counts are rounded, divided, and the quotient is scaled.

Counts are natural numbers. They stand for 64-bit words as long as none of them, and no sum of them,
reaches 2^64.

## Main definitions

* `percentage`: a part of a whole
* `Counters`: the counts of a call site
* `Counters.merge`, `Counters.sum`: counts of several sites together
* `Counters.hitRate`: the share of reads that a cached node answered

## Main results

* `merge_assoc`, `merge_comm`, `zero_merge`: sums do not depend on the order of the sites
-/

namespace InlineCache

/-- A part of a whole in percent, zero if the whole is. Counts are words. -/
def percentage (part whole : Nat) : Float32 :=
  if whole = 0 then 0
  else part.toUInt64.toFloat32 / whole.toUInt64.toFloat32 * 100

/-- The counts of a call site. -/
@[ext]
structure Counters where
  /-- Reads from a receiver with attributes. -/
  reads : Nat
  /-- Reads that a cached node answered. -/
  hits : Nat
  /-- Cached nodes that did not apply; one read can miss several. -/
  misses : Nat
  /-- Cached nodes added. -/
  specializations : Nat
  /-- Times the site gave up specializing. -/
  generalizations : Nat
  /-- Stale nodes removed. -/
  prunes : Nat
  /-- Reads answered by name at a site that gave up specializing. -/
  genericReads : Nat
  deriving DecidableEq, Inhabited

namespace Counters

/-- Nothing counted. -/
def zero : Counters := ⟨0, 0, 0, 0, 0, 0, 0⟩

/-- The counts of two sites together. -/
def merge (a b : Counters) : Counters where
  reads := a.reads + b.reads
  hits := a.hits + b.hits
  misses := a.misses + b.misses
  specializations := a.specializations + b.specializations
  generalizations := a.generalizations + b.generalizations
  prunes := a.prunes + b.prunes
  genericReads := a.genericReads + b.genericReads

/-- The counts of several sites together. -/
def sum (all : List Counters) : Counters := all.foldl merge zero

/-- The counts in a fixed order: reads, hits, misses, specializations, generalizations, prunes and
generic reads. -/
def toList (c : Counters) : List Nat :=
  [c.reads, c.hits, c.misses, c.specializations, c.generalizations, c.prunes, c.genericReads]

/-- The share of the reads that a cached node answered, in percent. -/
def hitRate (c : Counters) : Float32 := percentage c.hits c.reads

/-- One read more. -/
def addRead (c : Counters) : Counters := { c with reads := c.reads + 1 }

/-- One hit more. -/
def addHit (c : Counters) : Counters := { c with hits := c.hits + 1 }

/-- Several misses and prunes more. -/
def addPassedOver (c : Counters) (misses prunes : Nat) : Counters :=
  { c with misses := c.misses + misses, prunes := c.prunes + prunes }

/-- One specialization more. -/
def addSpecialization (c : Counters) : Counters :=
  { c with specializations := c.specializations + 1 }

/-- One generalization more. -/
def addGeneralization (c : Counters) : Counters :=
  { c with generalizations := c.generalizations + 1 }

/-- One generic read more. -/
def addGenericRead (c : Counters) : Counters := { c with genericReads := c.genericReads + 1 }

@[simp] theorem zero_merge (c : Counters) : zero.merge c = c := by
  ext <;> simp [merge, zero]

theorem merge_comm (a b : Counters) : a.merge b = b.merge a := by
  ext <;> simp [merge, Nat.add_comm]

theorem merge_assoc (a b c : Counters) : (a.merge b).merge c = a.merge (b.merge c) := by
  ext <;> simp [merge, Nat.add_assoc]

end Counters

end InlineCache
