import InlineCache.Store

/-!
# What the object world reports

A class whose token is renewed reports why. The names are those of the classes and attributes at
the time of the report.

## Main definitions

* `WorldEvent`: the reports
-/

namespace InlineCache

/-- A report of the object world. -/
inductive WorldEvent where
  /-- A write to a class changed its layout, and the token `retired` was invalidated. -/
  | layoutChanged (className attr : String) (outcome : WriteOutcome) (retired : Assumption)
  /-- A class got another superclass, or none, and the token `retired` was invalidated. -/
  | superclassChanged (className : String) (superclass : Option String) (retired : Assumption)
  deriving DecidableEq

end InlineCache
