import InlineCache.Text.Quoted

/-!
# Limits

Two limits bound the work of a call site: how many cached nodes it keeps before it gives up
specializing, and how many classes a lookup walks. Both are positive.

## Main definitions

* `Limit`: which of the two
* `Limits`: a value for either
* `LimitsError`: why a value is refused
* `Limits.withChain`, `Limits.withHierarchy`: changing one limit

## Main results

* `withChain_eq_ok_iff`, `withHierarchy_eq_ok_iff`: a limit is taken exactly if it is positive
-/

namespace InlineCache

/-- One of the two limits. -/
inductive Limit where
  /-- The number of cached nodes of a call site. -/
  | chain
  /-- The number of classes that a lookup walks. -/
  | hierarchy
  deriving DecidableEq

namespace Limit

/-- The name of the setting. -/
def setting : Limit → String
  | chain => "max_chain_depth"
  | hierarchy => "max_hierarchy_depth"

/-- The environment variable that sets the limit. -/
def envName : Limit → String
  | chain => "KESTREL_IC_MAX_DEPTH"
  | hierarchy => "KESTREL_IC_MAX_HIERARCHY"

end Limit

/-- Why limits are refused. -/
inductive LimitsError where
  /-- A limit was zero. -/
  | zero (limit : Limit)
  /-- The text of an environment variable is not a positive integer. -/
  | unparsable (limit : Limit) (raw : String)
  deriving DecidableEq

/-- The text of the refusal. -/
def LimitsError.message : LimitsError → String
  | zero limit => limit.setting ++ " must be at least 1"
  | unparsable limit raw =>
    limit.envName ++ "=" ++ Text.quoted raw ++ " is not a positive integer"

/-- A positive value for either limit. -/
structure Limits where
  /-- Cached nodes of a call site before it stops specializing. -/
  chain : Nat
  /-- Classes walked by one lookup. -/
  hierarchy : Nat
  chain_pos : 0 < chain
  hierarchy_pos : 0 < hierarchy
  deriving DecidableEq

namespace Limits

/-- The limits where nothing else is set: four cached nodes, and 256 classes. -/
def standard : Limits := ⟨4, 256, by decide, by decide⟩

instance : Inhabited Limits := ⟨standard⟩

/-- Changes the limit of cached nodes. -/
def withChain (limits : Limits) (n : Nat) : Except LimitsError Limits :=
  if h : 0 < n then .ok { limits with chain := n, chain_pos := h } else .error (.zero .chain)

/-- Changes the limit of walked classes. -/
def withHierarchy (limits : Limits) (n : Nat) : Except LimitsError Limits :=
  if h : 0 < n then .ok { limits with hierarchy := n, hierarchy_pos := h }
  else .error (.zero .hierarchy)

/-- A limit of cached nodes is taken exactly if it is positive. -/
theorem withChain_eq_ok_iff {limits changed : Limits} {n : Nat} :
    limits.withChain n = .ok changed ↔
      0 < n ∧ changed.chain = n ∧ changed.hierarchy = limits.hierarchy := by
  unfold withChain
  by_cases h : 0 < n
  · simp only [h, ↓reduceDIte, Except.ok.injEq, true_and]
    cases changed
    simp [eq_comm]
  · simp [h]

/-- A limit of walked classes is taken exactly if it is positive. -/
theorem withHierarchy_eq_ok_iff {limits changed : Limits} {n : Nat} :
    limits.withHierarchy n = .ok changed ↔
      0 < n ∧ changed.hierarchy = n ∧ changed.chain = limits.chain := by
  unfold withHierarchy
  by_cases h : 0 < n
  · simp only [h, ↓reduceDIte, Except.ok.injEq, true_and]
    cases changed
    simp [eq_comm, and_comm]
  · simp [h]

end Limits

end InlineCache
