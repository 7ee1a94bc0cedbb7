import InlineCache.Log
import InlineCache.SiteTable

/-!
# Sessions

A session is the object world together with the call sites that read from it and the tables that
find them. Sites are shared: a table and a holder of a site see the same nodes and counters.

## Main definitions

* `Session`: the world, the sites and the tables
* `Outcome`: an answer, the events, and the session afterwards
* `Session.newSite`, `Session.read`, `Session.readInt`, `Session.readFloat`, `Session.readBool`:
  call sites on their own
* `Session.newTable`, `Session.siteAt`, `Session.load`, `Session.clearTable`: call sites by place
* `Session.siteAt?`, `Session.classificationAt`, `Session.totals`, `Session.breakdown`: what a table
  tells of its sites

## Main results

* `world_readWith`, `world_siteAt`, `world_load`: no read changes the object world
* `answer_siteAt_of_mismatch`: a site is not handed out for a name it does not read
-/

namespace InlineCache

/-- The identity of a table of call sites. -/
structure TableId where
  /-- Position in the order of creation. -/
  index : Nat
  deriving DecidableEq, Inhabited

/-- The object world, the call sites and the tables that find them. -/
structure Session where
  /-- The objects. -/
  world : World
  /-- The call sites. -/
  sites : Array Site
  /-- The tables. -/
  tables : Array SiteTable
  deriving DecidableEq, Inhabited

/-- What an operation on a session produces. -/
structure Outcome (α : Type) where
  /-- The answer. -/
  answer : α
  /-- The events, in order. -/
  events : List Event
  /-- The session afterwards. -/
  session : Session

namespace Session

/-- Nothing at all. -/
def empty : Session := ⟨.empty, #[], #[]⟩

/-- The site of an identity. -/
def site (session : Session) (id : SiteId) : Site := session.sites.getD id.index default

/-- The table of an identity. -/
def table (session : Session) (id : TableId) : SiteTable :=
  session.tables.getD id.index default

/-! ## Sites -/

/-- Creates a site that has read nothing. -/
def newSite (session : Session) (name : String) (limits : Limits) : SiteId × Session :=
  (⟨session.sites.size⟩, { session with sites := session.sites.push (.new name limits) })

/-- Performs a read at a site. -/
def readWith {α : Type} (session : Session) (id : SiteId) (perform : World → Site → Read α) :
    Outcome (Except ReadError α) :=
  let read := perform session.world (session.site id)
  { answer := read.answer
    events := read.log
    session := { session with sites := session.sites.setIfInBounds id.index read.site } }

/-- Reads the attribute of a site from a value. -/
def read (session : Session) (id : SiteId) (value : Value) : Outcome (Except ReadError Value) :=
  session.readWith id fun world site => site.read world value

/-- Reads an attribute that has to be an integer. -/
def readInt (session : Session) (id : SiteId) (value : Value) :
    Outcome (Except ReadError Int64) :=
  session.readWith id fun world site => site.readInt world value

/-- Reads an attribute that has to be a float. -/
def readFloat (session : Session) (id : SiteId) (value : Value) :
    Outcome (Except ReadError UInt64) :=
  session.readWith id fun world site => site.readFloat world value

/-- Reads an attribute that has to be a boolean. -/
def readBool (session : Session) (id : SiteId) (value : Value) :
    Outcome (Except ReadError Bool) :=
  session.readWith id fun world site => site.readBool world value

/-! ## Tables -/

/-- Creates a table with no sites. -/
def newTable (session : Session) (limits : Limits) : TableId × Session :=
  (⟨session.tables.size⟩, { session with tables := session.tables.push (.new limits) })

/-- The site at a place, if the table has one there. -/
def siteAt? (session : Session) (t : TableId) (place : Place) : Option SiteId :=
  (session.table t).find? place

/-- The site at a place. It is created for the name if the place has none; a site that reads
another name is not handed out. -/
def siteAt (session : Session) (t : TableId) (place : Place) (name : String) :
    Outcome (Except ReadError SiteId) :=
  match session.siteAt? t place with
  | some id =>
    let cached := (session.site id).name
    if cached = name then ⟨.ok id, [], session⟩
    else
      let error : ReadError :=
        .invalidState (.siteReused place.code place.offset cached name)
      ⟨.error error, error.warnings, session⟩
  | none =>
    let (id, session) := session.newSite name (session.table t).limits
    { answer := .ok id
      events := []
      session := { session with
        tables := session.tables.modify t.index fun table => table.insert place id } }

/-- Reads at a place: finds or creates the site, and reads from the value. -/
def load (session : Session) (t : TableId) (place : Place) (name : String) (value : Value) :
    Outcome (Except ReadError Value) :=
  let found := session.siteAt t place name
  match found.answer with
  | .ok id => found.session.read id value
  | .error error => ⟨.error error, found.events, found.session⟩

/-- Forgets all places of a table. The sites stay with whoever holds them. -/
def clearTable (session : Session) (t : TableId) : Session :=
  { session with tables := session.tables.modify t.index SiteTable.clear }

/-- The classification of the site at a place. Where there is none, nothing has specialized. -/
def classificationAt (session : Session) (t : TableId) (place : Place) : Classification :=
  match session.siteAt? t place with
  | some id => (session.site id).classification
  | none => .uninitialized

/-- The counters of all sites of a table together. -/
def totals (session : Session) (t : TableId) : Counters :=
  .sum ((session.table t).sites.map fun id => (session.site id).counters)

/-- How many sites of a table there are of each classification. -/
def breakdown (session : Session) (t : TableId) : Breakdown :=
  .count ((session.table t).sites.map fun id => (session.site id).classification)

/-! ## Laws -/

/-- **No read changes the object world.** -/
@[simp] theorem world_readWith {α : Type} (session : Session) (id : SiteId)
    (perform : World → Site → Read α) :
    (session.readWith id perform).session.world = session.world := rfl

@[simp] theorem world_siteAt (session : Session) (t : TableId) (place : Place) (name : String) :
    (session.siteAt t place name).session.world = session.world := by
  unfold siteAt
  split
  · dsimp only
    split <;> rfl
  · rfl

/-- No read at a place changes the object world. -/
@[simp] theorem world_load (session : Session) (t : TableId) (place : Place) (name : String)
    (value : Value) : (session.load t place name value).session.world = session.world := by
  unfold load
  dsimp only
  split
  · exact world_siteAt session t place name
  · exact world_siteAt session t place name

/-- A site is not handed out for a name it does not read. -/
theorem answer_siteAt_of_mismatch {session : Session} {t : TableId} {place : Place} {id : SiteId}
    {name : String} (found : session.siteAt? t place = some id)
    (other : (session.site id).name ≠ name) :
    (session.siteAt t place name).answer =
      .error (.invalidState (.siteReused place.code place.offset (session.site id).name name)) := by
  simp [siteAt, found, other]

end Session

end InlineCache
