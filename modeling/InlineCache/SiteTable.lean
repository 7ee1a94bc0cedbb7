import InlineCache.Site

/-!
# The table of call sites

A call site in a program is found by its place: the code it belongs to, and the offset in it. A
table maps places to sites. The sites themselves are shared: whoever holds one keeps it, also when
the table has forgotten the place.

## Main definitions

* `Place`, `SiteId`: where a call site is in the program, and which site it is
* `SiteTable`, with `SiteTable.find?`, `SiteTable.insert` and `SiteTable.clear`
* `Breakdown`: how many sites there are of each classification

## Main results

* `find?_insert_self`, `find?_insert_of_ne`: what a table finds after an insertion
* `total_count`: a breakdown counts every site once
-/

namespace InlineCache

/-- The place of a call site in a program. -/
structure Place where
  /-- The code that the site belongs to. -/
  code : Nat
  /-- The offset in that code. -/
  offset : Nat
  deriving DecidableEq

/-- The identity of a call site. -/
structure SiteId where
  /-- Position in the order of creation. -/
  index : Nat
  deriving DecidableEq, Inhabited

/-- A table of call sites. -/
structure SiteTable where
  /-- The limits of the sites that the table creates. -/
  limits : Limits
  /-- The sites by place, the newest first. No place occurs twice. -/
  entries : List (Place × SiteId)
  deriving DecidableEq, Inhabited

namespace SiteTable

/-- A table with no sites. -/
def new (limits : Limits) : SiteTable := ⟨limits, []⟩

/-- The site at a place. -/
def find? (table : SiteTable) (place : Place) : Option SiteId :=
  (table.entries.find? fun entry => entry.1 = place).map Prod.snd

/-- Adds a site at a place that has none. -/
def insert (table : SiteTable) (place : Place) (site : SiteId) : SiteTable :=
  { table with entries := (place, site) :: table.entries }

/-- Forgets all places. -/
def clear (table : SiteTable) : SiteTable := { table with entries := [] }

/-- The sites of the table. -/
def sites (table : SiteTable) : List SiteId := table.entries.map Prod.snd

/-- The number of sites. -/
def size (table : SiteTable) : Nat := table.entries.length

@[simp] theorem find?_new (limits : Limits) (place : Place) : (new limits).find? place = none := rfl

@[simp] theorem find?_clear (table : SiteTable) (place : Place) :
    table.clear.find? place = none := rfl

@[simp] theorem find?_insert_self (table : SiteTable) (place : Place) (site : SiteId) :
    (table.insert place site).find? place = some site := by
  simp [find?, insert]

theorem find?_insert_of_ne {place other : Place} (h : other ≠ place) (table : SiteTable)
    (site : SiteId) : (table.insert place site).find? other = table.find? other := by
  simp [find?, insert, Ne.symm h]

end SiteTable

/-- How many sites there are of each classification. -/
structure Breakdown where
  /-- Sites that never specialized. -/
  uninitialized : Nat
  /-- Sites with one receiver. -/
  monomorphic : Nat
  /-- Sites with several receivers. -/
  polymorphic : Nat
  /-- Sites that gave up. -/
  megamorphic : Nat
  deriving DecidableEq, Inhabited

namespace Breakdown

/-- No sites. -/
def zero : Breakdown := ⟨0, 0, 0, 0⟩

/-- One site more. -/
def add (b : Breakdown) : Classification → Breakdown
  | .uninitialized => { b with uninitialized := b.uninitialized + 1 }
  | .monomorphic => { b with monomorphic := b.monomorphic + 1 }
  | .polymorphic => { b with polymorphic := b.polymorphic + 1 }
  | .megamorphic => { b with megamorphic := b.megamorphic + 1 }

/-- The breakdown of a list of sites. -/
def count (all : List Classification) : Breakdown := all.foldl add zero

/-- All sites. -/
def total (b : Breakdown) : Nat :=
  b.uninitialized + b.monomorphic + b.polymorphic + b.megamorphic

/-- The counts in a fixed order: uninitialized, monomorphic, polymorphic and megamorphic. -/
def toList (b : Breakdown) : List Nat :=
  [b.uninitialized, b.monomorphic, b.polymorphic, b.megamorphic]

/-- The share of the monomorphic sites, in percent. -/
def monomorphicRate (b : Breakdown) : Float32 := percentage b.monomorphic b.total

@[simp] theorem total_add (b : Breakdown) (c : Classification) :
    (b.add c).total = b.total + 1 := by
  cases c <;> simp only [add, total] <;> omega

/-- A breakdown counts every site once. -/
theorem total_count (all : List Classification) : (count all).total = all.length := by
  have grow : ∀ (all : List Classification) (b : Breakdown),
      (all.foldl add b).total = b.total + all.length := by
    intro all
    induction all with
    | nil => simp
    | cons c rest ih =>
      intro b
      rw [List.foldl_cons, ih, total_add, List.length_cons]
      omega
  rw [count, grow]
  simp [zero, total]

end Breakdown

end InlineCache
