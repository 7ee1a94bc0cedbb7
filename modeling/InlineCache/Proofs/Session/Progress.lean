import InlineCache.Proofs.Session.Ledgers
import InlineCache.Proofs.Session.Tokens
import InlineCache.Proofs.Store.Progress

/-!
# Layouts of holders move one way

Along a history the writes to a holder are a run of writes to its store, since nothing else touches
the store. So the layout of the holder only ever becomes heavier, a shape that it has left never
comes back, and the writes that change the layout are at most two for each name that is written. For
a class these are the writes that give it another token.

## Main definitions

* `Session.writeTo?`, `Session.writesTo`: the writes to a holder, with their outcomes
* `Session.renewals`: how often a write gave a class another token
* `Session.Told`: the outcome of a write tells what it did to the layout
* `Session.OneWay`: what a history does to the layout of a holder

## Main results

* `store_after_of_unwritten`: nothing but a write to a holder touches its store
* `Reachable.trace_run`: the writes of a history are a run of writes to the store
* `Reachable.renewals_eq`: the writes that renew the token of a class change its layout
* `layouts_move_one_way`: what writes do to layouts, one by one and together
-/

namespace InlineCache

/-- The action writes an attribute. -/
def Action.isWrite : Action → Bool
  | .setAttribute _ _ _ _ => true
  | _ => false

namespace Session

variable {session : Session} {action : Action} {holder target : Holder} {registry : RegistryId}
  {name : String} {value : Value} {c : ClassId}

/-! ## The writes to a holder -/

/-- The name that the action writes to the holder, and the outcome that it replies with. -/
def writeTo? (session : Session) (holder : Holder) (action : Action) :
    Option (String × WriteOutcome) :=
  match action, (session.perform action).answer with
  | .setAttribute _ target name _, .wrote outcome =>
    if target = holder then some (name, outcome) else none
  | _, _ => none

/-- The writes of a history to the holder, in order. -/
def writesTo (session : Session) (holder : Holder) : List Action → List (String × WriteOutcome)
  | [] => []
  | action :: rest =>
    (session.writeTo? holder action).toList ++ (session.after action).writesTo holder rest

/-- How many writes of a history gave the class another token. -/
def renewals (session : Session) (c : ClassId) : List Action → Nat
  | [] => 0
  | action :: rest =>
    (if action.isWrite = true ∧
        (session.after action).world.currentAssumption c ≠ session.world.currentAssumption c
      then 1 else 0) + (session.after action).renewals c rest

theorem writeTo?_setAttribute :
    session.writeTo? holder (.setAttribute registry target name value) =
      if target = holder then
        some (name, (session.world.written registry target name value).outcome)
      else none :=
  congrArg (fun outcome => if target = holder then some (name, outcome) else none)
    (World.setAttribute_answer ..)

theorem writeTo?_of_not_isWrite (other : action.isWrite = false) :
    session.writeTo? holder action = none := by
  cases action <;> first | rfl | cases other

/-- **Nothing but a write to a holder touches its store.** -/
theorem store_after_of_unwritten (admitted : session.Admits action)
    (there : session.world.HasHolder holder)
    (unwritten : session.writeTo? holder action = none) :
    (session.after action).world.store holder = session.world.store holder := by
  cases action with
  | setAttribute registry target name value =>
    rw [writeTo?_setAttribute] at unwritten
    split at unwritten
    · cases unwritten
    · next elsewhere => exact World.store_setAttribute_of_ne admitted.2.1 (Ne.symm elsewhere)
  | newClass => exact (World.newClass_adds ..).store_old holder there
  | newInstance => exact (World.newInstance_adds ..).store_old holder there
  | newModule => exact (World.newModule_adds ..).store_old holder there
  | newStore | newStoreOn | copyStore =>
    exact (World.pushStore_adds session.world _).store_old holder there
  | _ => exact (stores_after_of_spared rfl admitted).2 holder

/-- A write advances the layout of its holder. -/
theorem Reachable.advances (reached : session.Reachable)
    (admitted : session.Admits (.setAttribute registry holder name value)) :
    (session.world.store holder).Advances name
      (session.world.written registry holder name value).outcome
      ((session.after (.setAttribute registry holder name value)).world.store holder) := by
  have sound := reached.sound
  have there := admitted.2.1
  have stored : (session.after (.setAttribute registry holder name value)).world.store holder =
      (session.world.written registry holder name value).store :=
    World.store_setAttribute_self there
  rw [stored]
  exact (sound.fits holder there).set_advances sound.space admitted.1
    (sound.published holder there) name value

/-- **The writes of a history to a holder** are a run of writes to its store. -/
theorem Reachable.trace_run (reached : session.Reachable) (there : session.world.HasHolder holder)
    {history : List Action} (admitted : session.AdmitsAll history) :
    AttributeStore.Trace (session.world.store holder) (session.writesTo holder history)
      ((session.run history).world.store holder) := by
  -- Every action is a write to the holder, or leaves its store alone.
  induction history generalizing session with
  | nil => exact .refl _
  | cons action rest ih =>
    have there' := (grows_after reached.sound admitted.1).ext.holders holder there
    have later := ih (reached.after admitted.1) there' admitted.2
    rw [writesTo, run_cons]
    cases wrote : session.writeTo? holder action with
    | none => rwa [store_after_of_unwritten admitted.1 there wrote] at later
    | some write =>
      cases action with
      | setAttribute registry target name value =>
        rw [writeTo?_setAttribute] at wrote
        split at wrote
        · next here =>
          subst here
          cases wrote
          exact .write (reached.advances admitted.1) later
        · cases wrote
      | _ =>
        rw [writeTo?_of_not_isWrite rfl] at wrote
        cases wrote

/-! ## The tokens of a class -/

/-- An action gives a class another token exactly if it renews the one that it has. -/
theorem Reachable.moved_iff_renews (reached : session.Reachable)
    (admitted : session.Admits action) (hc : session.world.HasClass c) :
    (session.after action).world.currentAssumption c ≠ session.world.currentAssumption c ↔
      session.Renews c action := by
  have effect := effect reached.sound admitted
  have hc' := (grows_after reached.sound admitted).ext.hasClass hc
  constructor
  · intro moved
    by_contra kept
    exact moved (effect.current_eq hc hc' kept)
  · intro renewed same
    have fresh := (effect.fresh_of_moved hc' fun stays => stays.2 renewed).1
    apply World.not_hasAssumption_mint session.world
    rw [← fresh, same]
    exact reached.sound.minted c hc

/-- **The writes that renew the token of a class** are those that change its layout. -/
theorem Reachable.renewals_eq (reached : session.Reachable) (hc : session.world.HasClass c)
    {history : List Action} (admitted : session.AdmitsAll history) :
    session.renewals c history =
      (session.writesTo (.object (.cls c)) history).countP fun write => write.2.changedShape := by
  induction history generalizing session with
  | nil => rfl
  | cons action rest ih =>
    have hc' := (grows_after reached.sound admitted.1).ext.hasClass hc
    rw [renewals, writesTo, List.countP_append, ih (reached.after admitted.1) hc' admitted.2]
    congr 1
    cases action with
    | setAttribute registry target name value =>
      have moved := (reached.moved_iff_renews admitted.1 hc).trans renews_setAttribute_iff
      rw [writeTo?_setAttribute]
      by_cases here : target = .object (.cls c)
      · rw [if_pos here, Option.toList_some, List.countP_singleton]
        refine if_congr ?_ rfl rfl
        rw [and_iff_right (by rfl), moved, and_iff_right here]
      · rw [if_neg here, if_neg fun both => here (moved.1 both.2).1]
        rfl
    | _ =>
      rw [writeTo?_of_not_isWrite rfl]
      rfl

/-! ## What writes do to layouts -/

/-- The outcome of a write tells what it did to the layout of its holder, and what the name had
before. -/
structure Told (session : Session) (registry : RegistryId) (holder : Holder) (name : String)
    (value : Value) : Prop where
  inPlace : (session.perform (.setAttribute registry holder name value)).answer = .wrote .inPlace ↔
    ((session.after (.setAttribute registry holder name value)).world.store holder).shape.same
      (session.world.store holder).shape = true
  added : (session.perform (.setAttribute registry holder name value)).answer = .wrote .added ↔
    (session.world.store holder).contains name = false
  widened : (session.perform (.setAttribute registry holder name value)).answer = .wrote .widened ↔
    ∃ location, (session.world.store holder).location? name = some location ∧
      location.kind.isPrimitive = true ∧ location.kind ≠ value.kind

/-- What a history does to the layout of a holder: no name goes and no slot changes its kind, but
for primitive ones that are boxed; a shape that the holder has left does not come back; a name is
added once, by the first write under it, unless it was there before; it is widened at most once; and
at most two changes of the layout are due to each name that is written. -/
structure OneWay (session : Session) (holder : Holder) (history : List Action) : Prop where
  boxes : (session.world.store holder).Boxes ((session.run history).world.store holder)
  left : ((session.run history).world.store holder).shape.same
      (session.world.store holder).shape = false →
    ∀ rest, (session.run history).AdmitsAll rest →
      (((session.run history).run rest).world.store holder).shape.same
        (session.world.store holder).shape = false
  added : ∀ name, (session.writesTo holder history).count (name, .added) =
    if (session.world.store holder).contains name = false ∧
        name ∈ (session.writesTo holder history).map Prod.fst then 1 else 0
  widened : ∀ name, (session.writesTo holder history).count (name, .widened) ≤ 1
  changes : ((session.writesTo holder history).countP fun write => write.2.changedShape) ≤
    2 * ((session.writesTo holder history).map Prod.fst).dedup.length

/-- The shape of a holder is the one that it had exactly if the layout is. -/
theorem Reachable.same_iff_eq (reached : session.Reachable)
    (there : session.world.HasHolder holder) {history : List Action}
    (admitted : session.AdmitsAll history) :
    ((session.run history).world.store holder).shape.same (session.world.store holder).shape =
        true ↔
      ((session.run history).world.store holder).shape = (session.world.store holder).shape := by
  have ext := reached.extends_run admitted
  constructor
  · intro same
    have now := (reached.run admitted).sound.published holder (ext.holders holder there)
    have before := ext.space.published _ (reached.sound.published holder there)
    exact now.eq_of_same before same
  · intro same
    rw [same, Shape.same, beq_self_eq_true]

theorem Reachable.told (reached : session.Reachable)
    (admitted : session.Admits (.setAttribute registry holder name value)) :
    session.Told registry holder name value := by
  have advances := reached.advances admitted
  have one : session.AdmitsAll [.setAttribute registry holder name value] := ⟨admitted, trivial⟩
  refine ⟨?_, ?_, ?_⟩
  · rw [answer_setAttribute, Reply.wrote.injEq, ← advances.shape_eq_iff]
    exact (reached.same_iff_eq admitted.2.1 one).symm
  · rw [answer_setAttribute, Reply.wrote.injEq, advances.added_iff,
      AttributeStore.kind?_eq_none_iff]
  · rw [answer_setAttribute, Reply.wrote.injEq]
    exact AttributeStore.outcome_eq_widened_iff

theorem Reachable.oneWay (reached : session.Reachable) (there : session.world.HasHolder holder)
    {history : List Action} (admitted : session.AdmitsAll history) :
    session.OneWay holder history := by
  have trace := reached.trace_run there admitted
  refine ⟨trace.boxes, ?_, ?_, ?_, trace.changes_le⟩
  · intro gone rest further
    have all := admitsAll_append.2 ⟨admitted, further⟩
    have there' := (reached.extends_run admitted).holders holder there
    rw [← run_append, Bool.eq_false_iff, Ne, reached.same_iff_eq there all, run_append]
    rw [Bool.eq_false_iff, Ne, reached.same_iff_eq there admitted] at gone
    -- the layout has become heavier, and it does not become lighter again
    have heavier := trace.shape_eq_or_weight_lt.resolve_left gone
    have later := ((reached.run admitted).trace_run there' further).shape_eq_or_weight_lt
    intro back
    rcases later with same | lt
    · rw [← same, back] at heavier
      exact Nat.lt_irrefl _ heavier
    · rw [back] at lt
      exact Nat.lt_asymm heavier lt
  · intro name
    simp only [trace.count_added, AttributeStore.kind?_eq_none_iff]
  · intro name
    refine Nat.le_trans (trace.count_widened_le name) ?_
    split <;> omega

/-- **Layouts move one way.** Whatever registries the writes to a holder go through, and whatever
happens in between, the outcome of each tells what it did to the layout. A shape that the holder has
left does not come back; every name is added once, and widened at most once; and there are at most
twice as many changes of the layout as names that are written. For a class these are the writes
that renew its token. -/
theorem layouts_move_one_way (reached : session.Reachable)
    (there : session.world.HasHolder holder) :
    (∀ registry name value, session.Admits (.setAttribute registry holder name value) →
      session.Told registry holder name value) ∧
      (∀ history, session.AdmitsAll history → session.OneWay holder history) ∧
      ∀ c, holder = .object (.cls c) → ∀ history, session.AdmitsAll history →
        session.renewals c history =
            ((session.writesTo holder history).countP fun write => write.2.changedShape) ∧
          session.renewals c history ≤
            2 * ((session.writesTo holder history).map Prod.fst).dedup.length := by
  refine ⟨fun registry name value => reached.told, fun history => reached.oneWay there, ?_⟩
  rintro c rfl history admitted
  have renewals := reached.renewals_eq there admitted
  exact ⟨renewals, renewals ▸ (reached.oneWay there admitted).changes⟩

/-- Two registries and a class with no attributes. -/
def unwritten : List Action :=
  [.newRegistry, .newRegistry, .newClass ⟨0⟩ "C" none]

/-- Two attributes of the class are added, and both widened, through either registry. -/
def reworked : List Action :=
  [.setAttribute ⟨0⟩ (.object (.cls ⟨0⟩)) "x" (.int 1),
    .setAttribute ⟨1⟩ (.object (.cls ⟨0⟩)) "y" (.bool true),
    .setAttribute ⟨1⟩ (.object (.cls ⟨0⟩)) "x" (.str "one"),
    .setAttribute ⟨0⟩ (.object (.cls ⟨0⟩)) "x" (.int 2),
    .setAttribute ⟨0⟩ (.object (.cls ⟨0⟩)) "y" (.int 3)]

/-- The bound is met: every write but the one in place changes the layout and renews the token of
the class, which will not have its first shape again. -/
theorem layouts_move_one_way_of_reworked :
    let session := empty.run unwritten
    let later := session.run reworked
    let holder : Holder := .object (.cls ⟨0⟩)
    session.writesTo holder reworked = [("x", .added), ("y", .added), ("x", .widened),
        ("x", .inPlace), ("y", .widened)] ∧
      session.renewals ⟨0⟩ reworked = 2 * ["x", "y"].length ∧
      (later.Told ⟨1⟩ holder "y" (.float 0) ∧
        (later.perform (.setAttribute ⟨1⟩ holder "y" (.float 0))).answer = .wrote .inPlace) ∧
      ∀ rest, later.AdmitsAll rest →
        ((later.run rest).world.store holder).shape.same (session.world.store holder).shape =
          false := by
  intro session later holder
  have reached : session.Reachable := ⟨unwritten, by decide, rfl⟩
  have reached' : later.Reachable := reached.run (by decide)
  have writes : session.writesTo holder reworked = [("x", .added), ("y", .added),
      ("x", .widened), ("x", .inPlace), ("y", .widened)] := by decide
  have there : session.world.HasHolder holder := by decide
  have there' : later.world.HasHolder holder := by decide
  obtain ⟨-, runs, tokens⟩ := layouts_move_one_way reached there
  obtain ⟨told, -⟩ := layouts_move_one_way reached' there'
  have next := told ⟨1⟩ "y" (.float 0) (by decide)
  refine ⟨writes, ?_, ⟨next, next.inPlace.2 (by decide)⟩, ?_⟩
  · rw [(tokens ⟨0⟩ rfl reworked (by decide)).1, writes]
    rfl
  · exact (runs reworked (by decide)).left (by decide)

end Session

end InlineCache
