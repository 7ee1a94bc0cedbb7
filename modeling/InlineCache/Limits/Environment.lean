import InlineCache.Limits
import InlineCache.Text.Blank

/-!
# Limits from the environment

Each limit has an environment variable. Its text is an integer that is positive and below `2 ^ 64`:
digits, after one plus sign at most, with white space around them. One more variable switches the
others off: they are ignored if it is set to anything but the empty text and `0`.

## Main definitions

* `readNat`: the value of a text of digits
* `readLimit`: the value of the text of a limit
* `Limits.ofEnvironment`: the limits that an environment sets

## Main results

* `ofEnvironment_of_ignored`: ignored variables leave the standard limits
-/

namespace InlineCache

/-- The variable that switches the others off. -/
def ignoreVariable : String := "KESTREL_IGNORE_ENV"

/-- A switch is on if it is set to a text other than the empty one and `0`. -/
def isSwitchedOn : Option String → Bool
  | none => false
  | some text => text != "" && text != "0"

/-- The value of one or more decimal digits. -/
def readNat (cs : List Char) : Option Nat :=
  if cs.isEmpty || cs.any (fun c => !c.isDigit) then none
  else some (cs.foldl (fun n c => 10 * n + (c.toNat - '0'.toNat)) 0)

/-- The text after a plus sign, or the whole text if it does not start with one. -/
def dropPlus : List Char → List Char
  | '+' :: rest => rest
  | cs => cs

/-- The value of the text of a limit. -/
def readLimit (raw : String) : Option Nat :=
  (readNat (dropPlus (Text.trim raw.toList))).filter fun n => decide (0 < n ∧ n < Nat.pow 2 64)

/-- The value that a variable gives to a limit, if it is set. -/
def limitOf (lookup : String → Option String) (limit : Limit) : Except LimitsError (Option Nat) :=
  match lookup limit.envName with
  | none => .ok none
  | some raw =>
    match readLimit raw with
    | some n => .ok (some n)
    | none => .error (.unparsable limit raw)

/-- The limits that an environment sets. The chain variable is read first. -/
def Limits.ofEnvironment (lookup : String → Option String) : Except LimitsError Limits := do
  if isSwitchedOn (lookup ignoreVariable) then return standard
  let chain ← limitOf lookup .chain
  let hierarchy ← limitOf lookup .hierarchy
  (← standard.withChain (chain.getD standard.chain)).withHierarchy
    (hierarchy.getD standard.hierarchy)

/-- Ignored variables leave the standard limits. -/
theorem Limits.ofEnvironment_of_ignored {lookup : String → Option String}
    (h : isSwitchedOn (lookup ignoreVariable) = true) : ofEnvironment lookup = .ok standard := by
  simp [ofEnvironment, h, pure, Except.pure]

end InlineCache
