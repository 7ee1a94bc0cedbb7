import InlineCache.Proofs.Session.Accounts
import InlineCache.Proofs.Session.Tables
import Mathlib.Algebra.GroupWithZero.Nat
import Mathlib.Data.List.Induction
import Mathlib.Data.List.Nodup
import Mathlib.Data.List.Perm.Basic

/-!
# What a table tells of its sites

A table adds up the counters of its sites and counts them by classification, in the order in which
it happens to keep them. The order does not matter: sums and counts do not depend on it. And no site
is counted twice, since a table has one entry for a place, and no site is at two places. So the
aggregates say the same as the sites, asked one by one in any order, and what is true of the
accounts of every site is true of the sums.

## Main definitions

* `Counters.fields`, `Breakdown.part`: the numbers that the records consist of
* `Session.Enumerates`: a list of the places that have a site

## Main results

* `Counters.field_sum`, `Breakdown.part_count`: the numbers of a sum and of a count
* `entries_after`: what an action does to the entries of a table
* `Reachable.placed_once`: no table of a reachable session has two entries for a place
* `aggregates_agree`: the aggregates say the same as the sites
-/

namespace InlineCache

/-! ## Sums of counters -/

namespace Counters

/-- The counts that make up a record. -/
def fields : List (Counters → Nat) :=
  [reads, hits, misses, specializations, generalizations, prunes, genericReads]

variable {field : Counters → Nat}

theorem field_zero (mem : field ∈ fields) : field zero = 0 := by
  revert field
  simp [fields, zero]

theorem field_merge (mem : field ∈ fields) (a b : Counters) :
    field (a.merge b) = field a + field b := by
  revert field
  simp [fields, merge]

/-- **A sum of records** is a sum in every count. -/
theorem field_sum (mem : field ∈ fields) (all : List Counters) :
    field (sum all) = (all.map field).sum := by
  induction all using List.reverseRecOn with
  | nil => exact field_zero mem
  | append_singleton rest c ih =>
    rw [sum] at ih
    rw [sum, List.foldl_append, List.foldl_cons, List.foldl_nil, field_merge mem, ih]
    simp

/-- A sum does not depend on the order. -/
theorem sum_perm {all other : List Counters} (perm : all.Perm other) : sum all = sum other := by
  have : RightCommutative merge :=
    ⟨fun a b c => by rw [merge_assoc, merge_comm b c, ← merge_assoc]⟩
  exact perm.foldl_eq zero

end Counters

/-! ## Counts of classifications -/

namespace Breakdown

/-- The number of sites of a classification. -/
def part (b : Breakdown) : Classification → Nat
  | .uninitialized => b.uninitialized
  | .monomorphic => b.monomorphic
  | .polymorphic => b.polymorphic
  | .megamorphic => b.megamorphic

theorem part_add (b : Breakdown) (c d : Classification) :
    (b.add c).part d = b.part d + if c = d then 1 else 0 := by
  cases c <;> cases d <;> rfl

/-- **A breakdown counts** each classification as often as it occurs. -/
theorem part_count (all : List Classification) (c : Classification) :
    (count all).part c = all.countP (· = c) := by
  induction all using List.reverseRecOn with
  | nil => cases c <;> rfl
  | append_singleton rest d ih =>
    rw [count] at ih
    rw [count, List.foldl_append, List.foldl_cons, List.foldl_nil, part_add, ih,
      List.countP_append, List.countP_singleton]
    simp

/-- A count does not depend on the order. -/
theorem count_perm {all other : List Classification} (perm : all.Perm other) :
    count all = count other := by
  have : RightCommutative add := ⟨fun b c d => by cases c <;> cases d <;> rfl⟩
  exact perm.foldl_eq zero

end Breakdown

theorem Site.classification_eq_megamorphic_iff {site : Site} :
    site.classification = .megamorphic ↔ site.terminal = .generic := by
  rw [classification, Profile.classification, profile]
  cases site.terminal with
  | generic => simp
  | uninitialized =>
    dsimp only
    split <;> simp_all

/-! ## Tables with one entry for a place -/

namespace SiteTable

variable {table : SiteTable} {place : Place} {id : SiteId}

/-- The places of the table. -/
def places (table : SiteTable) : List Place := table.entries.map Prod.fst

theorem mem_places_iff : place ∈ table.places ↔ (table.find? place).isSome := by
  simp [places, find?]

theorem find?_of_mem (once : table.places.Nodup) (entry : (place, id) ∈ table.entries) :
    table.find? place = some id := by
  obtain ⟨limits, entries⟩ := table
  induction entries with
  | nil => cases entry
  | cons first rest ih =>
    rw [places, List.map_cons, List.nodup_cons] at once
    rw [find?, List.find?_cons]
    rcases List.mem_cons.1 entry with rfl | later
    · simp
    · have ne : first.1 ≠ place := by
        rintro rfl
        exact once.1 (List.mem_map.2 ⟨_, later, rfl⟩)
      simp only [ne, decide_false]
      exact ih once.2 later

/-- The sites of a table are those that it finds at its places. -/
theorem filterMap_find?_places (once : table.places.Nodup) :
    table.places.filterMap table.find? = table.sites := by
  have found : ∀ entry ∈ table.entries, (table.find? ∘ Prod.fst) entry = some entry.2 :=
    fun entry mem => find?_of_mem once mem
  rw [places, List.filterMap_map, List.filterMap_congr found, sites]
  exact congrFun List.filterMap_eq_map table.entries

end SiteTable

namespace Session

variable {session : Session} {t : TableId} {id : SiteId} {action : Action} {places : List Place}

/-! ## Entries -/

theorem entries_newTable (session : Session) (limits : Limits) (t : TableId) :
    ((session.newTable limits).2.table t).entries = (session.table t).entries := by
  by_cases last : t.index = session.tables.size
  · simp only [newTable, table, Array.getD_eq_getD_getElem?, Array.getElem?_push, last, if_true,
      Array.getElem?_eq_none (Nat.le_refl _)]
    rfl
  · simp [newTable, table, Array.getElem?_push, last]

/-- Asking for a site enters one at most. -/
theorem entries_siteAt (session : Session) (u : TableId) (place : Place) (name : String)
    (t : TableId) :
    let before := (session.table t).entries
    let after := ((session.siteAt u place name).session.table t).entries
    after = before ∨
      ∃ place, session.siteAt? t place = none ∧
        after = (place, ⟨session.sites.size⟩) :: before := by
  intro before after
  cases known : session.siteAt? u place with
  | some id =>
    left
    exact congrArg (fun s => (s.table t).entries) (session_siteAt_of_found known name)
  | none =>
    have table := table_of_modify (tables_siteAt_of_free known name) t
    split at table
    · next here =>
      right
      refine ⟨place, ?_, congrArg SiteTable.entries table⟩
      rw [here.1, known]
    · exact .inl (congrArg SiteTable.entries table)

/-- **What an action does to the entries of a table**: nothing, or it forgets them all, or it enters
the next site at a place that has none. -/
theorem entries_after (session : Session) (action : Action) (t : TableId) :
    let before := (session.table t).entries
    let after := ((session.after action).table t).entries
    after = before ∨ after = [] ∨
      ∃ place, session.siteAt? t place = none ∧
        after = (place, ⟨session.sites.size⟩) :: before := by
  intro before after
  cases action with
  | newTable limits => exact .inl (entries_newTable session limits t)
  | clearTable u =>
    have table := table_of_modify (tables_clearTable session u) t
    split at table
    · exact .inr (.inl (congrArg SiteTable.entries table))
    · exact .inl (congrArg SiteTable.entries table)
  | siteAt u place name => exact (entries_siteAt session u place name t).imp_right .inr
  | load u place name value =>
    have same : after = ((session.siteAt u place name).session.table t).entries := by
      show ((session.load u place name value).session.table t).entries = _
      unfold load
      dsimp only
      split <;> rfl
    rw [same]
    exact (entries_siteAt session u place name t).imp_right .inr
  | setSuperclass c superclass =>
    left
    show ((session.perform (.setSuperclass c superclass)).session.table t).entries = _
    rw [perform]
    split <;> rfl
  | _ => exact .inl rfl

/-- **No table has two entries for a place**, in a reachable session. -/
theorem Reachable.placed_once (reached : session.Reachable) (t : TableId) :
    (session.table t).places.Nodup := by
  refine Reachable.induction (motive := fun s => (s.table t).places.Nodup) ?_ ?_ reached
  · exact List.nodup_nil
  · intro session action _ once _
    rw [SiteTable.places]
    obtain same | cleared | ⟨place, free, entered⟩ := entries_after session action t
    · rw [same]
      exact once
    · rw [cleared]
      exact List.nodup_nil
    · rw [entered, List.map_cons, List.nodup_cons]
      refine ⟨fun mem => ?_, once⟩
      have found := SiteTable.mem_places_iff.1 mem
      rw [siteAt?] at free
      rw [free] at found
      cases found

/-! ## The places in any order -/

/-- A list of the places at which the table has a site, in some order, each of them once. -/
structure Enumerates (session : Session) (t : TableId) (places : List Place) : Prop where
  once : places.Nodup
  mem_iff : ∀ place, place ∈ places ↔ (session.siteAt? t place).isSome

/-- The entries are one such list. -/
theorem Reachable.enumerates (reached : session.Reachable) (t : TableId) :
    session.Enumerates t (session.table t).places :=
  ⟨reached.placed_once t, fun _ => SiteTable.mem_places_iff⟩

/-- So is every other order of the same places. -/
theorem Enumerates.of_perm (enumerates : session.Enumerates t places) {other : List Place}
    (perm : other.Perm places) : session.Enumerates t other :=
  ⟨perm.nodup_iff.2 enumerates.once, fun place => perm.mem_iff.trans (enumerates.mem_iff place)⟩

theorem Enumerates.perm (first : session.Enumerates t places) {other : List Place}
    (second : session.Enumerates t other) : places.Perm other := by
  apply (List.perm_ext_iff_of_nodup first.once second.once).2
  intro place
  rw [first.mem_iff, second.mem_iff]

/-- The sites at the places are those of the table, in some order. -/
theorem Enumerates.sites_perm (enumerates : session.Enumerates t places)
    (reached : session.Reachable) :
    (places.filterMap (session.siteAt? t)).Perm (session.table t).sites := by
  rw [← SiteTable.filterMap_find?_places (reached.placed_once t)]
  exact (enumerates.perm (reached.enumerates t)).filterMap _

/-- No site is counted twice. -/
theorem Enumerates.sites_nodup (enumerates : session.Enumerates t places)
    (reached : session.Reachable) : (places.filterMap (session.siteAt? t)).Nodup := by
  refine List.Nodup.filterMap ?_ enumerates.once
  intro place other id here there
  exact (congrArg Prod.snd (reached.apart here there)).symm

/-- Each place has one site. -/
theorem Enumerates.length_sites (enumerates : session.Enumerates t places) :
    (places.filterMap (session.siteAt? t)).length = places.length := by
  rw [List.length_filterMap_eq_countP, List.countP_eq_length]
  exact fun place mem => (enumerates.mem_iff place).1 mem

/-- A sort of sites can be counted by their places. -/
theorem Enumerates.countP_sites (enumerates : session.Enumerates t places)
    (c : Classification) :
    (places.filterMap (session.siteAt? t)).countP
        (fun id => (session.site id).classification = c) =
      places.countP fun place => session.classificationAt t place = c := by
  rw [List.countP_filterMap]
  apply List.countP_congr
  intro place mem
  obtain ⟨id, found⟩ := Option.isSome_iff_exists.1 ((enumerates.mem_iff place).1 mem)
  simp [classificationAt, found]

/-! ## Accounts of several sites -/

/-- The nodes of several sites are their specializations less their prunes. -/
theorem Reachable.sum_specializations (reached : session.Reachable) (ids : List SiteId) :
    (ids.map fun id => (session.site id).counters.specializations).sum =
      (ids.map fun id => (session.site id).counters.prunes).sum +
        (ids.map fun id => (session.site id).profile.size).sum := by
  induction ids with
  | nil => rfl
  | cons id rest ih =>
    have nodes := (reached.balanced id).nodes
    have size : (session.site id).profile.size = (session.site id).nodes.length :=
      List.length_map _
    simp only [List.map_cons, List.sum_cons]
    omega

/-- Each generic site among them has turned generic once, and no other site has. -/
theorem Reachable.sum_generalizations (reached : session.Reachable) (ids : List SiteId) :
    (ids.map fun id => (session.site id).counters.generalizations).sum =
      ids.countP fun id => (session.site id).classification = .megamorphic := by
  induction ids with
  | nil => rfl
  | cons id rest ih =>
    have terminal := (reached.balanced id).terminal
    simp only [List.map_cons, List.sum_cons, List.countP_cons, ih, terminal,
      Site.classification_eq_megamorphic_iff, decide_eq_true_eq]
    omega

/-- **The aggregates agree with the sites.** Whatever the order in which the places of a table are
listed, each place has one site, and no site occurs twice. The totals are the sum of the counters of
these sites, count by count. The breakdown counts all of them, and under each classification the
places that the table classifies so. In the totals, a generalization stands for every megamorphic
site, and the specializations less the prunes are the nodes of all sites. -/
theorem aggregates_agree (reached : session.Reachable)
    (enumerates : session.Enumerates t places) :
    let ids := places.filterMap (session.siteAt? t)
    let totals := session.totals t
    let breakdown := session.breakdown t
    (ids.Nodup ∧ ids.length = places.length) ∧
      totals = .sum (ids.map fun id => (session.site id).counters) ∧
      (∀ field ∈ Counters.fields,
        field totals = (ids.map fun id => field (session.site id).counters).sum) ∧
      breakdown = .count (ids.map fun id => (session.site id).classification) ∧
      (breakdown.total = (session.table t).size ∧ (session.table t).size = places.length) ∧
      (∀ c, breakdown.part c = places.countP fun place => session.classificationAt t place = c) ∧
      totals.generalizations =
        places.countP (fun place => session.classificationAt t place = .megamorphic) ∧
      totals.specializations =
        totals.prunes + (ids.map fun id => (session.site id).profile.size).sum := by
  intro ids totals breakdown
  have perm : ids.Perm (session.table t).sites := enumerates.sites_perm reached
  have summed : totals = .sum (ids.map fun id => (session.site id).counters) :=
    (Counters.sum_perm (perm.map _)).symm
  have counted : breakdown = .count (ids.map fun id => (session.site id).classification) :=
    (Breakdown.count_perm (perm.map _)).symm
  have field {field : Counters → Nat} (mem : field ∈ Counters.fields) :
      field totals = (ids.map fun id => field (session.site id).counters).sum := by
    rw [summed, Counters.field_sum mem, List.map_map]
    rfl
  have length : ids.length = places.length := enumerates.length_sites
  have size : (session.table t).size = ids.length := by
    rw [perm.length_eq, SiteTable.sites, List.length_map, SiteTable.size]
  refine ⟨⟨enumerates.sites_nodup reached, length⟩, summed, fun _ mem => field mem, counted,
    ⟨?_, ?_⟩, ?_, ?_, ?_⟩
  · rw [counted, Breakdown.total_count, List.length_map, size]
  · rw [size, length]
  · intro c
    rw [counted, Breakdown.part_count, List.countP_map, ← enumerates.countP_sites]
    rfl
  · have generalizations := @field Counters.generalizations (by simp [Counters.fields])
    rw [generalizations, reached.sum_generalizations, enumerates.countP_sites]
  · have specializations := @field Counters.specializations (by simp [Counters.fields])
    have prunes := @field Counters.prunes (by simp [Counters.fields])
    rw [specializations, prunes, reached.sum_specializations]

/-- A table whose sites have room for one node forgets a first site. Then one place is read from two
classes, one from the second class, once for another name and once through a held site, and a third
place is only asked for its site. -/
def tallied : List Action :=
  [.newRegistry, .newClass ⟨0⟩ "Left" none, .newClass ⟨0⟩ "Right" none,
    .setAttribute ⟨0⟩ (.object (.cls ⟨0⟩)) "x" (.int 1),
    .setAttribute ⟨0⟩ (.object (.cls ⟨1⟩)) "x" (.bool true),
    .newTable ⟨1, 256, Nat.one_pos, Limits.standard.hierarchy_pos⟩,
    .load ⟨0⟩ ⟨0, 0⟩ "x" (.object (.cls ⟨0⟩)), .clearTable ⟨0⟩,
    .load ⟨0⟩ ⟨0, 0⟩ "x" (.object (.cls ⟨0⟩)), .load ⟨0⟩ ⟨0, 0⟩ "x" (.object (.cls ⟨1⟩)),
    .load ⟨0⟩ ⟨0, 4⟩ "x" (.object (.cls ⟨1⟩)), .load ⟨0⟩ ⟨0, 4⟩ "y" (.object (.cls ⟨1⟩)),
    .siteAt ⟨0⟩ ⟨0, 8⟩ "x", .read ⟨2⟩ (.object (.cls ⟨1⟩))]

/-- The places are listed in another order than that of their creation. One of the three sites is
megamorphic, one generalization was counted, and the two specializations are the two nodes. -/
theorem aggregates_agree_of_tallied :
    let session := empty.run tallied
    let places : List Place := [⟨0, 4⟩, ⟨0, 0⟩, ⟨0, 8⟩]
    let totals := session.totals ⟨0⟩
    let breakdown := session.breakdown ⟨0⟩
    session.Enumerates ⟨0⟩ places ∧ totals.reads = 4 ∧ breakdown.total = 3 ∧
      breakdown.part .megamorphic = 1 ∧ totals.generalizations = 1 ∧
      totals.specializations = totals.prunes + 2 := by
  intro session places totals breakdown
  have reached : session.Reachable := ⟨tallied, by decide, rfl⟩
  have enumerates : session.Enumerates ⟨0⟩ places :=
    (reached.enumerates ⟨0⟩).of_perm (by decide)
  obtain ⟨-, -, sums, -, ⟨total, size⟩, parts, generalizations, nodes⟩ :=
    aggregates_agree reached enumerates
  have megamorphic :
      places.countP (fun place => session.classificationAt ⟨0⟩ place = .megamorphic) = 1 := by
    decide
  rw [megamorphic] at generalizations
  refine ⟨enumerates, ?_, total.trans size, ?_, generalizations, nodes⟩
  · exact sums Counters.reads (List.mem_cons_self ..)
  · exact (parts .megamorphic).trans megamorphic

end Session

end InlineCache
