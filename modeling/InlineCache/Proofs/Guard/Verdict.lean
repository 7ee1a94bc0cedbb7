import InlineCache.Proofs.Resolution.Persistence
import InlineCache.Proofs.World.Lineage

/-!
# What a guard decides

A guard knows its receiver by a key: the shape of an object that has the attribute itself, the
class and the shape of an instance that inherits it, or the class that inherits it. Whether it
passes is decided by the key and the captured tokens alone: a receiver without the key is missed, a
receiver with the key finds the guard stale if some token is invalid, and passes otherwise. The
guard of a long way also looks at every link of the way, but there is nothing to see: as long as the
token of a class is valid, the class has the superclass that it had.

## Main definitions

* `ReceiverKey`, `ReceiverKey.Matches`, `Guard.key`: what a guard knows its receiver by
* `Guard.verdict`: the outcome by key and tokens
* `World.Way`: classes on a way, each the superclass of the one before
* `Probe.outcome`: the outcome of a guarded fetch

## Main results

* `check_eq_verdict`: a check finds the verdict
* `exists_probe_eq_verdict`: so does a fetch
* `key_matches_of_resolve`: a guard matches the receiver that it was made for
* `not_holds_of_extends`: an invalid token stays invalid
-/

namespace InlineCache

/-! ## Keys -/

/-- What a guard knows its receiver by. A shape is identified by its serial number. -/
inductive ReceiverKey where
  /-- An object with the shape. -/
  | layout (serial : Nat)
  /-- An instance of the class with the shape. -/
  | inst (cls : ClassId) (serial : Nat)
  /-- The class itself. -/
  | cls (c : ClassId)
  deriving DecidableEq

namespace ReceiverKey

/-- The receiver has the key at present. -/
def Matches (world : World) : ObjectId → ReceiverKey → Prop
  | receiver, layout serial => (world.layout receiver).serial = serial
  | .inst i, inst c serial => world.classOf i = c ∧ (world.layout (.inst i)).serial = serial
  | .cls c, cls captured => c = captured
  | _, _ => False

instance (world : World) : (receiver : ObjectId) → (key : ReceiverKey) →
    Decidable (key.Matches world receiver)
  | .inst _, layout _ | .cls _, layout _ | .mod _, layout _ => inferInstanceAs (Decidable (_ = _))
  | .inst _, inst _ _ => inferInstanceAs (Decidable (_ ∧ _))
  | .cls _, cls _ => inferInstanceAs (Decidable (_ = _))
  | .cls _, inst _ _ | .mod _, inst _ _ | .inst _, cls _ | .mod _, cls _ =>
    inferInstanceAs (Decidable False)

/-- The key of a receiver that has the attribute itself. -/
def isOwn : ReceiverKey → Bool
  | layout _ => true
  | _ => false

theorem matches_layout {world : World} {receiver : ObjectId} {serial : Nat} :
    (layout serial).Matches world receiver ↔ (world.layout receiver).serial = serial := by
  cases receiver <;> rfl

/-- A receiver has one key of either sort. -/
theorem eq_of_matches {world : World} {receiver : ObjectId} {a b : ReceiverKey}
    (ha : a.Matches world receiver) (hb : b.Matches world receiver) (sort : a.isOwn = b.isOwn) :
    a = b := by
  cases a <;> cases b <;> simp only [isOwn, reduceCtorEq] at sort
  · exact congrArg layout (ha.symm.trans hb)
  -- Keys of the other sort tell which arm the receiver is of.
  all_goals cases receiver <;> simp only [Matches] at ha hb
  · obtain ⟨rfl, rfl⟩ := ha
    obtain ⟨rfl, rfl⟩ := hb
    rfl
  · exact congrArg cls (ha.symm.trans hb)

end ReceiverKey

/-- The key of the receiver of an inherited attribute. -/
def ReceiverCheck.key (captured : ReceiverCheck) : ReceiverKey :=
  match captured.stable with
  | .layout shape => .inst captured.owner shape.serial
  | .token _ => .cls captured.owner

namespace Guard

/-- What the guard knows its receiver by. -/
def key : Guard → ReceiverKey
  | layout shape => .layout shape.serial
  | cls captured _ => captured.key
  | chain captured _ _ => captured.key

/-- What a check finds by the key of the receiver and the captured tokens alone. -/
def verdict (world : World) (receiver : ObjectId) (guard : Guard) : GuardOutcome :=
  if guard.key.Matches world receiver then
    if ∀ a ∈ guard.tokens, world.holds a = true then .pass else .stale
  else .miss

section Verdict

variable {world : World} {receiver : ObjectId} {guard : Guard}

theorem verdict_eq_miss_iff :
    guard.verdict world receiver = .miss ↔ ¬ guard.key.Matches world receiver := by
  unfold verdict
  by_cases known : guard.key.Matches world receiver
  · rw [if_pos known]
    split <;> simp [known]
  · simp [known]

theorem verdict_eq_stale_iff :
    guard.verdict world receiver = .stale ↔
      guard.key.Matches world receiver ∧ ∃ a ∈ guard.tokens, world.holds a = false := by
  unfold verdict
  by_cases known : guard.key.Matches world receiver
  · rw [if_pos known]
    split
    · next valid => simpa [known] using valid
    · next retired => simpa [known] using retired
  · simp [known]

theorem verdict_eq_pass_iff :
    guard.verdict world receiver = .pass ↔
      guard.key.Matches world receiver ∧ ∀ a ∈ guard.tokens, world.holds a = true := by
  unfold verdict
  by_cases known : guard.key.Matches world receiver
  · rw [if_pos known]
    split
    · next valid => simpa [known] using valid
    · next retired => simpa [known] using retired
  · simp [known]

/-- A guard that is stale for one receiver is the guard of an inherited attribute. -/
theorem isOwn_key_of_stale (stale : guard.verdict world receiver = .stale) :
    guard.key.isOwn = false := by
  obtain ⟨-, a, captured, -⟩ := verdict_eq_stale_iff.1 stale
  rcases guard with shape | ⟨check, definer⟩ | ⟨check, hops, depth⟩
  · cases captured
  all_goals
    rw [key, ReceiverCheck.key]
    split <;> rfl

end Verdict

end Guard

/-! ## Tokens stay invalid -/

theorem World.not_holds_of_extends {world later : World} {a : Assumption}
    (minted : world.HasAssumption a) (retired : world.holds a = false)
    (ext : world.Extends later) : later.holds a = false := by
  rw [Bool.eq_false_iff] at retired ⊢
  exact fun valid => retired (ext.retired a minted valid)

/-! ## The way to the definer -/

namespace World

variable {world later : World} {name : String} {first : Option ClassId} {hops : List Hop}

/-- The classes on a way from `first` on: they were created, each with the token that it holds, and
each is the superclass of the one before. -/
structure Way (world : World) (first : Option ClassId) (hops : List Hop) : Prop where
  start : ∀ hop ∈ hops.head?, first = some hop.cls
  created : ∀ hop ∈ hops, world.HasClass hop.cls
  current : ∀ hop ∈ hops, world.currentAssumption hop.cls = hop.assumption
  linked : hops.IsChain fun hop next => world.superclass hop.cls = some next.cls

/-- **A search leaves a way behind.** -/
theorem way_of_walk (sound : world.Sound) (created : ∀ c ∈ first, world.HasClass c)
    {budget : Nat} {found : Found}
    (walked : world.walk name budget (world.lineage first) = .ok found) :
    world.Way first found.hops := by
  obtain ⟨visited, positive, -⟩ := walk_hops walked
  rw [visited]
  refine ⟨?_, ?_, ?_, ?_⟩
  · intro hop mem
    rw [List.head?_map, Option.mem_def, Option.map_eq_some_iff] at mem
    obtain ⟨c, mem, rfl⟩ := mem
    rw [List.head?_take, if_neg (Nat.ne_of_gt positive)] at mem
    exact eq_some_of_head?_lineageWithin mem
  · intro hop mem
    obtain ⟨c, visited, rfl⟩ := List.mem_map.1 mem
    exact hasClass_of_mem_lineageWithin sound created (List.mem_of_mem_take visited)
  · intro hop mem
    obtain ⟨c, -, rfl⟩ := List.mem_map.1 mem
    rfl
  · rw [List.isChain_map]
    exact (isChain_lineageWithin world _ first).take _

/-- The links are checked between the tokens. -/
theorem hopsHold_iff : world.hopsHold hops = true ↔
    (∀ hop ∈ hops, world.holds hop.assumption = true) ∧
      hops.IsChain fun hop next => world.superclass hop.cls = some next.cls := by
  induction hops with
  | nil => simp [hopsHold]
  | cons hop rest ih =>
    cases rest with
    | nil => simp [hopsHold]
    | cons next rest =>
      rw [hopsHold, Bool.and_eq_true, Bool.and_eq_true, ih, List.isChain_cons_cons]
      simp only [hasSuperclass, beq_iff_eq, List.forall_mem_cons]
      tauto

/-- **The links of a way stay in place** while its tokens are valid. -/
theorem Way.linked_of_valid (way : world.Way first hops) (ext : world.Extends later)
    (valid : ∀ hop ∈ hops, later.holds hop.assumption = true) :
    hops.IsChain fun hop next => later.superclass hop.cls = some next.cls := by
  refine way.linked.imp_of_mem_imp fun hop next mem _ link => ?_
  have holds := valid hop mem
  rw [← way.current hop mem] at holds
  rw [(ext.unmoved hop.cls (way.created hop mem) holds).superclass]
  exact link

/-- So the tokens alone decide. -/
theorem Way.hopsHold_iff (way : world.Way first hops) (ext : world.Extends later) :
    later.hopsHold hops = true ↔ ∀ hop ∈ hops, later.holds hop.assumption = true := by
  rw [World.hopsHold_iff, and_iff_left_iff_imp]
  exact way.linked_of_valid ext

/-- The first class on the way is where the search of the receiver still begins. -/
theorem Way.startsAt {receiver : ObjectId} {captured : ReceiverCheck}
    (way : world.Way first hops) (ext : world.Extends later) (hr : world.HasObject receiver)
    (enters : world.entry receiver = some (captured, first))
    (valid : ∀ a ∈ captured.tokens, later.holds a = true) :
    later.startsAt captured.owner hops = true := by
  cases hops with
  | nil => rfl
  | cons hop rest =>
    have start := way.start hop rfl
    rw [World.startsAt, Bool.or_eq_true, beq_iff_eq, hasSuperclass, beq_iff_eq]
    rcases receiver with i | c | m
    · cases enters
      exact .inl (Option.some.inj start)
    · cases enters
      have still := ext.unmoved c hr (valid _ (List.mem_singleton_self _))
      exact .inr (still.superclass.trans start)
    · cases enters

end World

/-! ## The receiver -/

namespace ReceiverCheck

variable {world later : World} {receiver : ObjectId} {captured : ReceiverCheck}

theorem check_eq (captured : ReceiverCheck) (world : World) (receiver : ObjectId) :
    captured.check world receiver =
      if captured.key.Matches world receiver then
        if ∀ a ∈ captured.tokens, world.holds a = true then .pass else .stale
      else .miss := by
  rcases captured with ⟨owner, shape | a⟩ <;> cases receiver <;>
    simp [check, key, tokens, ReceiverKey.Matches, Shape.same]

theorem valid_of_pass {captured : ReceiverCheck} {world : World} {receiver : ObjectId}
    (pass : captured.check world receiver = .pass) :
    ∀ a ∈ captured.tokens, world.holds a = true := by
  rw [check_eq] at pass
  split at pass
  · split at pass
    · assumption
    · cases pass
  · cases pass

/-- A receiver matches what is captured of it. -/
theorem key_matches_of_entry {first : Option ClassId}
    (enters : world.entry receiver = some (captured, first)) :
    captured.key.Matches world receiver := by
  rcases receiver with i | c | m <;> cases enters
  · exact ⟨rfl, rfl⟩
  · rfl

theorem isOwn_key (captured : ReceiverCheck) : captured.key.isOwn = false := by
  rw [key]
  split <;> rfl

end ReceiverCheck

/-! ## The guard of a resolution -/

/-- What the guard of a resolution holds on to: the layout of the receiver, if the attribute is its
own, or else the way to the class that defines it. -/
inductive Guard.Recalls (world : World) (receiver : ObjectId) (name : String)
    (location : Location) : Guard → Prop where
  | own {value : Value} (owned : world.lookupOwn receiver name = some (location, value)) :
    Recalls world receiver name location (.layout (world.layout receiver))
  | near {captured : ReceiverCheck} {first : Option ClassId} {definer : Hop} {value : Value}
    (enters : world.entry receiver = some (captured, first)) (way : world.Way first [definer])
    (defined : world.lookupOwn (.cls definer.cls) name = some (location, value)) :
    Recalls world receiver name location (.cls captured definer)
  | far {captured : ReceiverCheck} {first : Option ClassId} {hops : List Hop} {definer : Hop}
    {value : Value} (enters : world.entry receiver = some (captured, first))
    (way : world.Way first hops) (several : 1 < hops.length)
    (last : hops.getLast? = some definer)
    (defined : world.lookupOwn (.cls definer.cls) name = some (location, value)) :
    Recalls world receiver name location (.chain captured hops hops.length)

section Recalls

variable {world later : World} {receiver other : ObjectId} {name : String} {location : Location}
  {guard : Guard} {limit : Nat} {resolution : Resolution}

/-- **The guard of a resolution recalls the way to the attribute.** -/
theorem Guard.recalls_of_resolve (sound : world.Sound) (hr : world.HasObject receiver)
    (resolved : world.resolve limit receiver name = .ok resolution)
    (guarded : ofResolution resolution = .ok guard) :
    guard.Recalls world receiver name resolution.location := by
  rcases World.resolve_cases resolved with
    ⟨location, value, owned, rfl⟩ | ⟨check, first, found, -, enters, walked, rfl⟩
  · cases guarded
    exact .own owned
  · have way := World.way_of_walk sound (World.hasClass_of_entry sound hr enters) walked
    obtain ⟨definer, last, defined⟩ := World.walk_definer walked
    obtain ⟨-, positive, -⟩ := World.walk_hops walked
    rcases found with ⟨_ | ⟨hop, _ | ⟨next, rest⟩⟩, location, value⟩
    · exact absurd positive (Nat.lt_irrefl 0)
    · cases guarded
      cases last
      exact .near enters way defined
    · cases guarded
      exact .far enters way (by simp) last defined

/-- A guard matches the receiver that it was made for. -/
theorem Guard.Recalls.key_matches (recalls : guard.Recalls world receiver name location) :
    guard.key.Matches world receiver := by
  cases recalls with
  | own owned => exact ReceiverKey.matches_layout.2 rfl
  | near enters way defined => exact ReceiverCheck.key_matches_of_entry enters
  | far enters way several last defined => exact ReceiverCheck.key_matches_of_entry enters

/-- The tokens on a way were held by classes, so they were minted. -/
theorem World.Way.minted {captured : ReceiverCheck} {first : Option ClassId} {hops : List Hop}
    (way : world.Way first hops) (sound : world.Sound) (hr : world.HasObject receiver)
    (enters : world.entry receiver = some (captured, first)) :
    ∀ a ∈ captured.tokens ++ hops.map Hop.assumption, world.HasAssumption a := by
  intro a mem
  rcases List.mem_append.1 mem with mem | mem
  · rcases receiver with i | c | m <;> cases enters
    · cases mem
    · rw [List.mem_singleton.1 mem]
      exact sound.minted c hr
  · obtain ⟨hop, visited, rfl⟩ := List.mem_map.1 mem
    rw [← way.current hop visited]
    exact sound.minted _ (way.created hop visited)

theorem Guard.Recalls.minted (recalls : guard.Recalls world receiver name location)
    (sound : world.Sound) (hr : world.HasObject receiver) :
    ∀ a ∈ guard.tokens, world.HasAssumption a := by
  cases recalls with
  | own owned => exact nofun
  | near enters way defined => exact way.minted sound hr enters
  | far enters way several last defined => exact way.minted sound hr enters

/-- The verdict of a guard that recalls a way: the receiver first, then the tokens on the way. -/
theorem Guard.verdict_of_way {captured : ReceiverCheck} (hops : List Hop)
    (key : guard.key = captured.key)
    (tokens : guard.tokens = captured.tokens ++ hops.map Hop.assumption) :
    guard.verdict world receiver =
      match captured.check world receiver with
      | .pass => if ∀ hop ∈ hops, world.holds hop.assumption = true then .pass else .stale
      | outcome => outcome := by
  rw [verdict, key, tokens, captured.check_eq]
  by_cases known : captured.key.Matches world receiver
  · by_cases valid : ∀ a ∈ captured.tokens, world.holds a = true
    · simp only [if_pos known, List.forall_mem_append, List.forall_mem_map, eq_true valid,
        true_and, if_true]
    · simp only [if_pos known, List.forall_mem_append, eq_false valid, false_and, if_false]
  · simp only [if_neg known]

/-- **A check finds the verdict**, in any later world and for any receiver. -/
theorem Guard.Recalls.check_eq_verdict (recalls : guard.Recalls world receiver name location)
    (ext : world.Extends later) (hr : world.HasObject receiver) (other : ObjectId) :
    guard.check later other = .ok (guard.verdict later other) := by
  cases recalls with
  | own owned => simp [check, verdict, key, tokens, ReceiverKey.matches_layout, Shape.same]
  | @near captured first definer value enters way defined =>
    rw [check, verdict_of_way [definer] rfl rfl]
    cases captured.check later other <;> simp
  | @far captured first hops definer value enters way several last defined =>
    have consistent : ¬ (hops.length = 0 ∨ hops.length ≠ hops.length) := by omega
    rw [check, checkChain, if_neg consistent, verdict_of_way hops rfl rfl]
    cases found : captured.check later other with
    | pass =>
      -- the links say nothing that the tokens do not say
      have starts := way.startsAt ext hr enters (captured.valid_of_pass found)
      simp only [starts, Bool.true_and, way.hopsHold_iff ext]
      split <;> rfl
    | miss => rfl
    | stale => rfl

/-! ## Fetching -/

/-- The outcome of a guarded fetch. -/
def Probe.outcome : Probe → GuardOutcome
  | .hit _ => .pass
  | .miss => .miss
  | .stale => .stale

/-- While its token is valid, the definer has the attribute in the slot that it had. -/
theorem World.Way.exists_fetchFrom {first : Option ClassId} {hops : List Hop} {definer : Hop}
    {value : Value} (way : world.Way first hops) (sound : later.Sound)
    (ext : world.Extends later) (visited : definer ∈ hops)
    (defined : world.lookupOwn (.cls definer.cls) name = some (location, value))
    (valid : later.holds definer.assumption = true) :
    ∃ value, Guard.fetchFrom later definer location = .hit value := by
  have created := way.created definer visited
  have current := way.current definer visited
  have still := ext.unmoved definer.cls created (current ▸ valid)
  have fits : (later.attributes (.cls definer.cls)).Fits :=
    sound.fits (.object (.cls definer.cls)) (ext.hasClass created)
  obtain ⟨value, found⟩ := fits.lookup_of_shape_eq still.layout defined
  have fetched := (AttributeStore.lookup_eq_some_iff.1 found).2
  have holder : later.currentAssumption definer.cls = definer.assumption :=
    still.assumption.trans current
  refine ⟨value, ?_⟩
  rw [Guard.fetchFrom, fetchIfStable, if_pos ⟨holder, valid⟩, fetched]
  rfl

/-- **A guarded fetch finds the verdict**: a guard that passes always has a value. -/
theorem Guard.Recalls.exists_probe (recalls : guard.Recalls world receiver name location)
    (sound : world.Sound) (sound' : later.Sound) (ext : world.Extends later)
    (hr : world.HasObject receiver) (ho : later.HasObject other) :
    ∃ probe, guard.probe later other location = .ok probe ∧
      probe.outcome = guard.verdict later other := by
  have checked := recalls.check_eq_verdict ext hr other
  cases recalls with
  | own owned =>
    rw [probe, World.fetchIfShape, AttributeStore.fetchIfShape]
    have layout : later.layout other = (later.attributes other).shape := rfl
    by_cases same : (later.layout other).same (world.layout receiver) = true
    · have before := ext.space.published _ (sound.published (.object receiver) hr)
      have now := sound'.published (.object other) ho
      have eq := ShapeSpace.Published.eq_of_same now before same
      have fits : (later.attributes other).Fits := sound'.fits (.object other) ho
      obtain ⟨value, found⟩ := fits.lookup_of_shape_eq eq owned
      have fetched := (AttributeStore.lookup_eq_some_iff.1 found).2
      rw [← layout, if_pos same, fetched]
      rw [check, if_pos same] at checked
      exact ⟨.hit value, rfl, Except.ok.inj checked⟩
    · rw [← layout, if_neg same]
      rw [check, if_neg same] at checked
      exact ⟨.miss, rfl, Except.ok.inj checked⟩
  | @near captured first definer value enters way defined =>
    simp only [probe, checked]
    cases found : (cls captured definer).verdict later other with
    | pass =>
      obtain ⟨-, valid⟩ := verdict_eq_pass_iff.1 found
      have token : definer.assumption ∈ (cls captured definer).tokens := by simp [tokens]
      obtain ⟨value, hit⟩ := way.exists_fetchFrom sound' ext (List.mem_singleton_self _)
        defined (valid _ token)
      exact ⟨.hit value, by rw [hit], rfl⟩
    | miss => exact ⟨.miss, rfl, rfl⟩
    | stale => exact ⟨.stale, rfl, rfl⟩
  | @far captured first hops definer value enters way several last defined =>
    simp only [probe, checked, last]
    cases found : (chain captured hops hops.length).verdict later other with
    | pass =>
      obtain ⟨-, valid⟩ := verdict_eq_pass_iff.1 found
      have visited := List.mem_of_getLast? last
      have token : definer.assumption ∈ (chain captured hops hops.length).tokens :=
        List.mem_append_right _ (List.mem_map_of_mem visited)
      obtain ⟨value, hit⟩ := way.exists_fetchFrom sound' ext visited defined (valid _ token)
      exact ⟨.hit value, by rw [hit], rfl⟩
    | miss => exact ⟨.miss, rfl, rfl⟩
    | stale => exact ⟨.stale, rfl, rfl⟩

end Recalls

end InlineCache
