import InlineCache.History
import InlineCache.Proofs.Site.Erasure

/-!
# No decision depends on a stored value

Erase the values of a session, and the value that an action writes. The action then does to the
erased session what it does to the session itself, and its reply is the same but for the value that
was read. So two histories that write values of the same kinds are one history once the values are
erased, and nothing but the values tells the sessions apart that they lead to: the layouts, the
tokens, the places of the attributes, and every node and counter of every call site are the same.

## Main definitions

* `Action.erase`, `Reply.erase`, `Session.erase`: the same with the values erased
* `Action.Alike`: the actions differ at most in the value that is written, and not in its kind
* `Session.Alike`: the sessions differ at most in the values that are stored

## Main results

* `after_erase`, `answer_erase`: an action in an erased session
* `decisions_ignore_values`: histories of actions that are alike
-/

namespace InlineCache

/-! ## Erasing -/

/-- The action with the value that it writes erased. -/
def Action.erase : Action → Action
  | setAttribute registry holder name value => setAttribute registry holder name value.erase
  | action => action

/-- The error without the text of the value that was found. -/
def ReadError.erase : ReadError → ReadError
  | unexpectedKind expected _ => unexpectedKind expected ""
  | error => error

/-- The answer of a read of one kind, with another part in place of the one found. -/
def eraseTyped {α : Type} (blank : α) : Except ReadError α → Except ReadError α
  | .ok _ => .ok blank
  | .error error => .error error.erase

/-- The reply with the value erased that was read. -/
def Reply.erase : Reply → Reply
  | read answer => read (answer.map Value.erase)
  | readInt answer => readInt (eraseTyped 0 answer)
  | readFloat answer => readFloat (eraseTyped 0 answer)
  | readBool answer => readBool (eraseTyped false answer)
  | reply => reply

/-- The session with every stored value erased. -/
def Session.erase (session : Session) : Session := { session with world := session.world.erase }

/-- The outcome with every stored value erased. -/
def Outcome.erase {α : Type} (outcome : Outcome α) : Outcome α :=
  { outcome with session := outcome.session.erase }

/-! ## Alike -/

/-- The actions are the same, or they write values of one kind to one place. -/
inductive Action.Alike : Action → Action → Prop where
  /-- Any action and itself. -/
  | same (action : Action) : Alike action action
  /-- Two writes. -/
  | wrote (registry : RegistryId) (holder : Holder) (name : String) {v w : Value}
      (kinds : v.kind = w.kind) :
      Alike (setAttribute registry holder name v) (setAttribute registry holder name w)

theorem Action.Alike.erase_eq {a b : Action} (alike : Alike a b) : a.erase = b.erase := by
  cases alike with
  | same => rfl
  | wrote registry holder name kinds => simp only [erase, Value.erase_eq_erase_iff.2 kinds]

/-- The sessions agree on all but the values that are stored. -/
structure Session.Alike (session other : Session) : Prop where
  /-- The same shapes were published, with the same successors. -/
  space : session.world.space = other.world.space
  /-- Every holder has one shape. -/
  layout : ∀ holder, (session.world.store holder).shape = (other.world.store holder).shape
  /-- The tokens are valid or not alike. -/
  holds : ∀ a, session.world.holds a = other.world.holds a
  /-- Every class holds one token. -/
  token : ∀ c, session.world.currentAssumption c = other.world.currentAssumption c
  /-- Every name is found in one slot, at one depth and with one placement, so in one class; or it
  is not found, for one reason. -/
  resolution : ∀ limit value name,
    (session.world.resolveValue limit value name).map Resolution.erase =
      (other.world.resolveValue limit value name).map Resolution.erase
  /-- Every call site has the same nodes, the same terminal and the same counters. -/
  site : ∀ id, session.site id = other.site id

namespace Session

variable (session : Session) (id : SiteId) (value : Value)

/-! ## Reads -/

theorem expect_erase {α : Type} (world : World) (kind : Kind) {part : Value → Option α} (blank : α)
    (same : ∀ v : Value, (part v.erase).isSome = (part v).isSome) (found : Value) :
    eraseTyped blank (Site.expect world.erase kind part found.erase) =
      eraseTyped blank (Site.expect world kind part found) := by
  have same := same found
  unfold Site.expect
  cases original : part found with
  | none =>
    rw [original, Option.isSome_none, Option.isSome_eq_false_iff,
      Option.isNone_iff_eq_none] at same
    rw [same]
    rfl
  | some x =>
    rw [original, Option.isSome_some, Option.isSome_iff_exists] at same
    obtain ⟨y, erased⟩ := same
    rw [erased]
    rfl

/-- The read that a site performs in an erased session is erased. -/
theorem performed_erase : (session.erase.site id).read session.erase.world value =
    ((session.site id).read session.world value).erase :=
  Site.read_erase session.world (session.site id) value

/-- A read in an erased session. -/
theorem read_erase : session.erase.read id value =
    { (session.read id value).erase with
      answer := (session.read id value).answer.map Value.erase } := by
  simp only [read, readWith, performed_erase]
  cases answer : ((session.site id).read session.world value).answer <;>
    simp [Read.erase, Read.log, answer, Except.map, warningsOf, Outcome.erase, erase]

/-- A read of one kind leaves the erased session, -/
theorem session_readAndThen_erase {α : Type} (test : World → Value → Except ReadError α) :
    (session.erase.readWith id fun world site =>
      (site.read world value).andThen (test world)).session =
    (session.readWith id fun world site =>
      (site.read world value).andThen (test world)).session.erase := by
  simp only [readWith, Read.andThen, performed_erase]
  rfl

/-- and answers alike. -/
theorem answer_readAndThen_erase {α : Type} (kind : Kind) {part : Value → Option α} (blank : α)
    (parts : ∀ v : Value, (part v.erase).isSome = (part v).isSome) :
    eraseTyped blank (session.erase.readWith id fun world site =>
      (site.read world value).andThen (Site.expect world kind part)).answer =
    eraseTyped blank (session.readWith id fun world site =>
      (site.read world value).andThen (Site.expect world kind part)).answer := by
  simp only [readWith, Read.andThen, performed_erase, Read.erase]
  cases ((session.site id).read session.world value).answer with
  | error error => rfl
  | ok found => exact expect_erase session.world kind blank parts found

theorem siteAt_erase (table : TableId) (place : Place) (name : String) :
    session.erase.siteAt table place name = (session.siteAt table place name).erase := by
  have known : session.erase.siteAt? table place = session.siteAt? table place := rfl
  unfold siteAt
  rw [known]
  cases session.siteAt? table place with
  | none => rfl
  | some id =>
    have same : session.erase.site id = session.site id := rfl
    dsimp only
    rw [same]
    split <;> rfl

theorem load_erase (table : TableId) (place : Place) (name : String) :
    session.erase.load table place name value =
      { (session.load table place name value).erase with
        answer := (session.load table place name value).answer.map Value.erase } := by
  unfold load
  rw [siteAt_erase]
  simp only [Outcome.erase]
  cases (session.siteAt table place name).answer with
  | error error => rfl
  | ok id => exact read_erase (session.siteAt table place name).session id value

/-! ## Actions -/

theorem setAttribute_erase (registry : RegistryId) (holder : Holder) (name : String) :
    session.erase.after (.setAttribute registry holder name value.erase) =
      (session.after (.setAttribute registry holder name value)).erase :=
  congrArg session.withWorld
    (World.world_setAttribute_erase session.world holder registry name value)

theorem perform_setSuperclass_erase (c : ClassId) (superclass : Option ClassId) :
    session.erase.perform (.setSuperclass c superclass) =
      (session.perform (.setSuperclass c superclass)).erase := by
  have changed : session.erase.world.setSuperclass c superclass = _ :=
    World.setSuperclass_erase session.world c superclass
  rw [perform, changed, perform]
  cases session.world.setSuperclass c superclass <;> rfl

/-- **An action in an erased session** leaves the erased session. -/
theorem after_erase (action : Action) :
    session.erase.after action.erase = (session.after action).erase := by
  cases action with
  | newClass registry name superclass =>
    exact congrArg session.withWorld (World.newClass_erase session.world registry name superclass)
  | newInstance registry c =>
    exact congrArg session.withWorld (World.newInstance_erase session.world c registry)
  | newModule registry name =>
    exact congrArg session.withWorld (World.newModule_erase session.world registry name)
  | newStore registry =>
    exact congrArg session.withWorld
      (World.newStoreOn_erase session.world (session.world.space.root registry))
  | newStoreOn root => exact congrArg session.withWorld (World.newStoreOn_erase session.world root)
  | copyStore store => exact congrArg session.withWorld (World.copyStore_erase session.world store)
  | setAttribute registry holder name value =>
    exact setAttribute_erase session value registry holder name
  | setSuperclass c superclass =>
    exact congrArg Outcome.session (perform_setSuperclass_erase session c superclass)
  | read id value => exact congrArg Outcome.session (read_erase session id value)
  | readInt id value =>
    exact session_readAndThen_erase session id value fun world => Site.expect world .int Value.int?
  | readFloat id value =>
    exact session_readAndThen_erase session id value fun world =>
      Site.expect world .float Value.float?
  | readBool id value =>
    exact session_readAndThen_erase session id value fun world =>
      Site.expect world .bool Value.bool?
  | siteAt table place name =>
    exact congrArg Outcome.session (siteAt_erase session table place name)
  | load table place name value =>
    exact congrArg Outcome.session (load_erase session value table place name)
  | _ => rfl

/-- Its reply is the same once what was read is erased. -/
theorem answer_erase (action : Action) :
    (session.erase.perform action.erase).answer.erase = (session.perform action).answer.erase := by
  have twice (answer : Except ReadError Value) :
      (answer.map Value.erase).map Value.erase = answer.map Value.erase := by
    cases answer with
    | error error => rfl
    | ok found => exact congrArg Except.ok (Value.erase_erase found)
  cases action with
  | setAttribute registry holder name value =>
    exact congrArg Reply.wrote
      (World.answer_setAttribute_erase session.world holder registry name value)
  | setSuperclass c superclass =>
    have refused := congrArg Outcome.answer (perform_setSuperclass_erase session c superclass)
    exact congrArg Reply.erase refused
  | read id value =>
    have answer := congrArg Outcome.answer (read_erase session id value)
    exact congrArg Reply.read ((congrArg (Except.map Value.erase) answer).trans (twice _))
  | load table place name value =>
    have answer := congrArg Outcome.answer (load_erase session value table place name)
    exact congrArg Reply.read ((congrArg (Except.map Value.erase) answer).trans (twice _))
  | readInt id value =>
    exact congrArg Reply.readInt (answer_readAndThen_erase session id value .int 0
      fun v => by cases v <;> rfl)
  | readFloat id value =>
    exact congrArg Reply.readFloat (answer_readAndThen_erase session id value .float 0
      fun v => by cases v <;> rfl)
  | readBool id value =>
    exact congrArg Reply.readBool (answer_readAndThen_erase session id value .bool false
      fun v => by cases v <;> rfl)
  | siteAt table place name =>
    have answer := congrArg Outcome.answer (siteAt_erase session table place name)
    exact congrArg Reply.site answer
  | _ => rfl

/-! ## Histories -/

theorem run_erase (history : List Action) :
    session.erase.run (history.map Action.erase) = (session.run history).erase := by
  induction history generalizing session with
  | nil => rfl
  | cons action rest ih => rw [List.map_cons, run_cons, after_erase, ih, run_cons]

theorem replies_erase (history : List Action) :
    (session.erase.replies (history.map Action.erase)).map Reply.erase =
      (session.replies history).map Reply.erase := by
  induction history generalizing session with
  | nil => rfl
  | cons action rest ih =>
    rw [List.map_cons, replies, replies, List.map_cons, List.map_cons, answer_erase, after_erase,
      ih]

variable {session}

/-- Sessions that are one session once the values are erased are alike. -/
theorem alike_of_erase_eq {other : Session} (same : session.erase = other.erase) :
    session.Alike other := by
  have worlds : session.world.erase = other.world.erase := congrArg Session.world same
  refine ⟨?_, fun holder => ?_, fun a => ?_, fun c => ?_, fun limit value name => ?_, fun id => ?_⟩
  · have spaces := congrArg World.space worlds
    simpa only [World.space_erase] using spaces
  · have stores := congrArg (fun world : World => (world.store holder).shape) worlds
    simpa only [World.store_erase, AttributeStore.shape_erase] using stores
  · have holds := congrArg (fun world : World => world.holds a) worlds
    simpa only [World.holds_erase] using holds
  · have tokens := congrArg (fun world : World => world.currentAssumption c) worlds
    simpa only [World.currentAssumption_erase] using tokens
  · have found := congrArg (fun world : World => world.resolveValue limit value name) worlds
    simpa only [World.resolveValue_erase] using found
  · have sites : session.erase.sites = other.erase.sites := congrArg Session.sites same
    exact congrArg (fun sites : Array Site => sites.getD id.index default) sites

/-- **No decision depends on a stored value.** Let two histories differ at most in the values that
they write, and not in the kinds of these. Then every action replies the same but for the value that
it has read: a write does the same to the layout, and a read fails in both or in none, for the same
reason. After every step the two sessions agree on all but the values that are stored. -/
theorem decisions_ignore_values (session : Session) {history history' : List Action}
    (alike : List.Forall₂ Action.Alike history history') :
    (session.replies history).map Reply.erase = (session.replies history').map Reply.erase ∧
      ∀ n, (session.run (history.take n)).Alike (session.run (history'.take n)) := by
  -- both histories are one history of erased actions
  have same : history.map Action.erase = history'.map Action.erase := by
    induction alike with
    | nil => rfl
    | cons first _ ih => rw [List.map_cons, List.map_cons, first.erase_eq, ih]
  refine ⟨?_, fun n => alike_of_erase_eq ?_⟩
  · rw [← replies_erase, ← replies_erase session history', same]
  · rw [← run_erase, ← run_erase, List.map_take, List.map_take, same]

/-- A class with an integer and a text, and a call site that reads from it and from an instance. -/
def measured (count : Int64) (label : Value) : List Action :=
  [.newRegistry, .newClass ⟨0⟩ "Gauge" none, .newInstance ⟨0⟩ ⟨0⟩, .newSite "count" .standard,
    .setAttribute ⟨0⟩ (.object (.cls ⟨0⟩)) "count" (.int count),
    .read ⟨0⟩ (.object (.inst ⟨0⟩)),
    .setAttribute ⟨0⟩ (.object (.cls ⟨0⟩)) "label" label,
    .read ⟨0⟩ (.object (.inst ⟨0⟩)), .readInt ⟨0⟩ (.object (.cls ⟨0⟩))]

/-- The numbers and the texts differ. The site prunes the same node and keeps the same two. -/
theorem decisions_ignore_values_of_measured :
    let session := empty.run (measured 1 (.str "low"))
    let other := empty.run (measured 70 .nothing)
    session.world.store (.object (.cls ⟨0⟩)) ≠ other.world.store (.object (.cls ⟨0⟩)) ∧
      session.site ⟨0⟩ = other.site ⟨0⟩ := by
  intro session other
  have alike : List.Forall₂ Action.Alike (measured 1 (.str "low")) (measured 70 .nothing) := by
    repeat' constructor
  obtain ⟨-, later⟩ := decisions_ignore_values empty alike
  exact ⟨by decide, (later 9).site ⟨0⟩⟩

end Session

end InlineCache
