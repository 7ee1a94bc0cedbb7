import InlineCache.Proofs.Store.Writing
import Mathlib.Data.List.Induction

/-!
# Stores refine ledgers

A ledger lists what was written, the oldest first, and knows nothing of slots and layouts. Read as a
dictionary, it gives a name the value that was last written under it, and lists the names in the
order in which they were first written. A store records a ledger if it reads the same way; a write
to the store is then one line more in the ledger.

## Main definitions

* `Ledger`, with `Ledger.add`, `Ledger.value?`, `Ledger.names` and `Ledger.entries`
* `AttributeStore.Records`: the store reads as the ledger

## Main results

* `Ledger.names_entries`, `Ledger.nodup_names`: a ledger lists every name once
* `Assigns.records`: a write is one line more
* `Records.entries_eq`, `Records.contains_iff`, `Records.size_eq`: the store reads as the ledger in
  every way
-/

namespace InlineCache

/-- What was written, the oldest first. -/
structure Ledger where
  /-- The names with the values written under them. -/
  lines : List (String × Value)
  deriving DecidableEq

namespace Ledger

/-- Nothing was written. -/
def empty : Ledger := ⟨[]⟩

/-- One line more. -/
def add (ledger : Ledger) (name : String) (value : Value) : Ledger :=
  ⟨ledger.lines ++ [(name, value)]⟩

/-- The value that was last written under a name. -/
def value? (ledger : Ledger) (name : String) : Option Value := ledger.lines.reverse.lookup name

/-- The names, in the order in which they were first written. -/
def names (ledger : Ledger) : List String := (ledger.lines.map Prod.fst).eraseDups

/-- The names with their values, in that order. -/
def entries (ledger : Ledger) : List (String × Value) :=
  ledger.names.filterMap fun name => (ledger.value? name).map (name, ·)

variable {ledger : Ledger} {name other : String} {value : Value}

theorem mem_names_iff : name ∈ ledger.names ↔ ∃ value, (name, value) ∈ ledger.lines := by
  simp [names]

theorem value?_isSome_iff : (ledger.value? name).isSome = true ↔ name ∈ ledger.names := by
  rw [mem_names_iff, value?]
  constructor
  · intro found
    obtain ⟨value, found⟩ := Option.isSome_iff_exists.1 found
    obtain ⟨first, rest, split, -⟩ := List.lookup_eq_some_iff.1 found
    refine ⟨value, List.mem_reverse.1 ?_⟩
    rw [split]
    exact List.mem_append_right _ (List.mem_cons_self ..)
  · rintro ⟨value, mem⟩
    rw [List.lookup_isSome_iff]
    exact ⟨(name, value), List.mem_reverse.2 mem, beq_self_eq_true name⟩

@[simp] theorem value?_add_self : (ledger.add name value).value? name = some value := by
  simp [add, value?]

theorem value?_add_of_ne (h : other ≠ name) :
    (ledger.add name value).value? other = ledger.value? other := by
  have ne : (other == name) = false := beq_eq_false_iff_ne.2 h
  simp [add, value?, List.lookup_cons, ne]

/-- A new name comes last. -/
theorem names_add : (ledger.add name value).names =
    if name ∈ ledger.names then ledger.names else ledger.names ++ [name] := by
  rw [names, add, List.map_append, List.eraseDups_append]
  by_cases old : name ∈ ledger.lines.map Prod.fst
  · simp [List.removeAll, old, names]
  · simp [List.removeAll, old, names, List.eraseDups_cons]

/-- **A ledger lists every name once.** -/
theorem nodup_names (ledger : Ledger) : ledger.names.Nodup := by
  rcases ledger with ⟨lines⟩
  -- Line by line: a name is listed when its first line is written.
  induction lines using List.reverseRecOn with
  | nil => exact List.nodup_nil
  | append_singleton lines line ih =>
    have step : (Ledger.mk (lines ++ [line])).names =
        if line.1 ∈ (Ledger.mk lines).names then (Ledger.mk lines).names
        else (Ledger.mk lines).names ++ [line.1] := names_add
    rw [step]
    split
    · exact ih
    · next new =>
      rw [List.nodup_append]
      refine ⟨ih, by simp, ?_⟩
      rintro name mem other here rfl
      rw [List.mem_singleton.1 here] at mem
      exact new mem

/-- What is listed are the names. -/
theorem names_entries (ledger : Ledger) : ledger.entries.map Prod.fst = ledger.names := by
  unfold entries
  rw [List.map_filterMap]
  refine (List.filterMap_congr fun name mem => ?_).trans (List.filterMap_some ..)
  obtain ⟨value, found⟩ := Option.isSome_iff_exists.1 (value?_isSome_iff.2 mem)
  simp [found]

end Ledger

namespace AttributeStore

/-- The store reads as the ledger: the same names in the same order, with the same values. -/
structure Records (store : AttributeStore) (ledger : Ledger) : Prop where
  names_eq : store.shape.names = ledger.names
  get_eq : ∀ name, store.get name = ledger.value? name

variable {store : AttributeStore} {ledger : Ledger} {space : ShapeSpace} {name : String}
  {value : Value} {written : Written}

/-- A lookup finds the value that reading by name gives. -/
theorem map_snd_lookup (store : AttributeStore) (name : String) :
    (store.lookup name).map Prod.snd = store.get name := by
  unfold lookup get
  cases store.location? name with
  | none => rfl
  | some location => cases fetched : store.fetch location <;> simp [fetched]

theorem Fits.get_of_not_mem (fits : store.Fits) (h : name ∉ store.shape.names) :
    store.get name = none := by
  rwa [← Option.not_isSome_iff_eq_none, fits.get_isSome_iff]

theorem Fits.records_empty (fits : store.Fits) (none : store.shape.names = []) :
    store.Records .empty :=
  ⟨none, fun name => fits.get_of_not_mem (by simp [none])⟩

/-- **A write is one line more.** -/
theorem Assigns.records (assigns : store.Assigns space name value written)
    (records : store.Records ledger) : written.store.Records (ledger.add name value) where
  names_eq := by rw [assigns.names_eq, records.names_eq, Ledger.names_add]
  get_eq other := by
    by_cases same : other = name
    · rw [same, assigns.get_self, Ledger.value?_add_self]
    · rw [assigns.get_of_ne other same, records.get_eq, Ledger.value?_add_of_ne same]

theorem Records.contains_iff (records : store.Records ledger) :
    store.contains name = true ↔ name ∈ ledger.names := by
  rw [contains, Shape.contains_iff_mem_names, records.names_eq]

theorem Records.entries_eq (records : store.Records ledger) (fits : store.Fits) :
    store.entries = ledger.entries := by
  rw [fits.entries_eq, records.names_eq, Ledger.entries]
  simp only [records.get_eq]

theorem Records.size_eq (records : store.Records ledger) :
    store.size = ledger.names.length := by
  rw [AttributeStore.size_eq, records.names_eq]

end AttributeStore

end InlineCache
