import InlineCache.Site

/-!
# The event log

Everything worth a line in the log is an event: a report of the object world, a report of a call
site about a read, or a warning. A warning stands for a state that should have been ruled out, and
goes with the error that the operation ends in.

## Main definitions

* `Event`: a report of any origin
* `ReadError.warnings`: the warnings that go with an error
* `Read.events`, `Read.log`: the events of a read, its warnings last
* `LogLine`, `Event.line`: the line of an event
-/

namespace InlineCache

/-- A report of any origin. -/
inductive Event where
  /-- A report of the object world. -/
  | world (report : WorldEvent)
  /-- A report of the call site that reads the attribute `name`. -/
  | site (name : String) (report : SiteEvent)
  /-- A lookup of the attribute would walk more than `limit` classes. -/
  | hierarchyTooDeep (name : String) (limit : Nat)
  /-- A guard for an attribute `depth` classes away keeps another number of classes. -/
  | inconsistentChain (depth hops : Nat)
  /-- Depth and placement of a resolution disagree. -/
  | mismatchedPlacement (depth : Nat)
  /-- A call site was asked for another name than it reads. -/
  | siteReused (code offset : Nat) (cached requested : String)
  deriving DecidableEq

/-- The warning that goes with a state, if there is one. -/
def InvalidState.warning? : InvalidState → Option Event
  | hierarchyTooDeep limit name => some (.hierarchyTooDeep name limit)
  | inconsistentChain depth hops => some (.inconsistentChain depth hops)
  | mismatchedPlacement depth => some (.mismatchedPlacement depth)
  | siteReused code offset cached requested => some (.siteReused code offset cached requested)
  | noDefiner => none
  | other _ => none

/-- The warnings that go with an error. -/
def ReadError.warnings : ReadError → List Event
  | invalidState cause => cause.warning?.toList
  | _ => []

/-- The warnings that go with an answer. -/
def warningsOf {α : Type} : Except ReadError α → List Event
  | .ok _ => []
  | .error e => e.warnings

/-- The events of a read in order. A warning comes last, since the read ends with it. -/
def Read.log {α : Type} (read : Read α) : List Event :=
  read.events.map (Event.site read.site.name) ++ warningsOf read.answer

/-! ## Lines -/

/-- How much an event matters. -/
inductive Level where
  /-- Every step of a read. -/
  | trace
  /-- A change of state. -/
  | debug
  /-- Something is wrong. -/
  | warn
  deriving DecidableEq

/-- The name of the level. -/
def Level.label : Level → String
  | trace => "TRACE"
  | debug => "DEBUG"
  | warn => "WARN"

/-- A line of the log. -/
structure LogLine where
  /-- How much it matters. -/
  level : Level
  /-- What happened. -/
  message : String
  /-- The particulars, by name. -/
  fields : List (String × String)
  deriving DecidableEq

/-- The line of a report of the object world. -/
def WorldEvent.line : WorldEvent → LogLine
  | layoutChanged className attr outcome retired =>
    ⟨.debug, "class layout changed",
      [("class", className), ("attribute", attr), ("outcome", outcome.label),
        ("retired", toString retired.number)]⟩
  | superclassChanged className superclass retired =>
    ⟨.debug, "class superclass changed",
      [("class", className)] ++ (superclass.map ("superclass", ·)).toList ++
        [("retired", toString retired.number)]⟩

/-- The line of a report of a call site that reads the attribute `name`. -/
def SiteEvent.line (name : String) : SiteEvent → LogLine
  | missed position =>
    ⟨.trace, "guard miss", [("attribute", name), ("position", toString position)]⟩
  | pruned position =>
    ⟨.trace, "pruned stale node", [("attribute", name), ("position", toString position)]⟩
  | specialized depth guard position =>
    ⟨.debug, "specialized attribute read",
      [("attribute", name), ("depth", toString depth), ("guard", guard.label),
        ("position", toString position)]⟩
  | generalized cached =>
    ⟨.debug, "attribute read fell back to generic",
      [("attribute", name), ("cached", toString cached)]⟩

/-- The line of an event. -/
def Event.line : Event → LogLine
  | world report => report.line
  | site name report => report.line name
  | hierarchyTooDeep name limit =>
    ⟨.warn, "class hierarchy exceeds walk limit",
      [("attribute", name), ("limit", toString limit)]⟩
  | inconsistentChain depth hops =>
    ⟨.warn, "chain guard built with inconsistent depth",
      [("depth", toString depth), ("hops", toString hops)]⟩
  | mismatchedPlacement depth =>
    ⟨.warn, "resolution placement does not match its depth", [("depth", toString depth)]⟩
  | siteReused code offset cached requested =>
    ⟨.warn, "attribute site reused for a different name",
      [("code_id", toString code), ("offset", toString offset), ("cached", cached),
        ("requested", requested)]⟩

end InlineCache
