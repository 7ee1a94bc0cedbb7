import InlineCache.Kind

/-!
# Why a read fails

A read fails because the attribute is nowhere to be found, because its value is not of the kind
that was asked for, or because a cache is in a state that its construction should have ruled out.

## Main definitions

* `InvalidState`: the states a cache should never be in, and the hierarchy that is too deep to walk
* `ReadError`: the reasons
* `ReadError.message`: their texts
-/

namespace InlineCache

/-- A state that should have been ruled out. -/
inductive InvalidState where
  /-- More classes than `limit` had to be walked for the name. -/
  | hierarchyTooDeep (limit : Nat) (name : String)
  /-- A guard for an attribute `depth` classes away keeps another number of classes, or none. -/
  | inconsistentChain (depth hops : Nat)
  /-- A resolution says in two ways where the attribute is, and they disagree. -/
  | mismatchedPlacement (depth : Nat)
  /-- A guard for an inherited attribute names no class that defines it. -/
  | noDefiner
  /-- The call site at that place reads another name than the requested one. -/
  | siteReused (code offset : Nat) (cached requested : String)
  /-- A state with a text of its own. -/
  | other (text : String)
  deriving DecidableEq

/-- What is wrong with the state. -/
def InvalidState.text : InvalidState → String
  | hierarchyTooDeep limit name =>
    "class hierarchy deeper than " ++ toString limit ++ " while resolving '" ++ name ++ "'"
  | inconsistentChain depth hops =>
    "chain guard with depth " ++ toString depth ++ " over " ++ toString hops ++ " hops"
  | mismatchedPlacement depth =>
    "resolution at depth " ++ toString depth ++ " with mismatched placement"
  | noDefiner => "chain guard without hops"
  | siteReused code offset cached requested =>
    "site " ++ toString code ++ ":" ++ toString offset ++ " reads '" ++ cached ++ "', not '" ++
      requested ++ "'"
  | other text => text

/-- Why a read has no value. -/
inductive ReadError where
  /-- Neither the receiver nor any class it inherits from has the attribute. -/
  | noAttribute (name receiver : String)
  /-- The value is not of the expected kind; `found` is its text. -/
  | unexpectedKind (expected : Kind) (found : String)
  /-- A state that should have been ruled out. -/
  | invalidState (cause : InvalidState)
  deriving DecidableEq

/-- The text of the error. -/
def ReadError.message : ReadError → String
  | noAttribute name receiver => "'" ++ receiver ++ "' object has no attribute '" ++ name ++ "'"
  | unexpectedKind expected found =>
    "expected " ++ expected.name ++ " attribute value, found " ++ found
  | invalidState cause => "invalid inline cache state: " ++ cause.text

end InlineCache
