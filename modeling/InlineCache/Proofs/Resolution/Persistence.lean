import InlineCache.Proofs.World.Sound

/-!
# A resolution persists while its guard passes

A search along classes asks each class whether it defines the name, and where. The answer depends
on the layout of the class alone, and which class comes next on its superclass. So a search of an
earlier world is repeated step by step in a later one if the tokens of the classes it visited are
still valid: no nearer class got the name, and the definer still has it in the same slot. A guard
that passes says just that, besides that the receiver still lacks the name, or still has it in the
captured slot.

## Main definitions

* `World.entry`: where the search for an inherited attribute begins
* `Guard.Consistent`: a guard that is checked without error

## Main results

* `walk_persists`: a search is repeated while its tokens are valid
* `exists_guard_of_resolve`: every resolution has a guard, a consistent one
* `Guard.Consistent.probe_ok`: such a guard is checked without error
* `resolve_eq_of_probe_hit`: a guard that hits finds its resolution again, up to the value
* `resolve_of_probe_hit`: so it gives what resolution by name gives now
-/

namespace InlineCache

/-! ## Looking up -/

namespace AttributeStore

variable {store later : AttributeStore} {name : String} {location : Location} {value : Value}

theorem lookup_eq_some_iff : store.lookup name = some (location, value) ↔
    store.shape.find? name = some location ∧ store.fetch location = some value := by
  unfold lookup location?
  cases store.shape.find? name with
  | none => simp
  | some l =>
    simp only [Option.bind_some, Option.map_eq_some_iff, Prod.mk.injEq, Option.some.injEq]
    constructor
    · rintro ⟨v, hv, rfl, rfl⟩
      exact ⟨rfl, hv⟩
    · rintro ⟨rfl, hv⟩
      exact ⟨value, hv, rfl, rfl⟩

theorem Fits.lookup_eq_none_iff (fits : store.Fits) :
    store.lookup name = none ↔ store.shape.find? name = none := by
  unfold lookup location?
  cases found : store.shape.find? name with
  | none => simp
  | some l =>
    obtain ⟨value, fetched⟩ := fits.exists_fetch found
    simp [fetched]

/-- Another store with the same layout has the name in the same slot, with a value of its own. -/
theorem Fits.lookup_of_shape_eq (fits : later.Fits) (same : later.shape = store.shape)
    (h : store.lookup name = some (location, value)) :
    ∃ value, later.lookup name = some (location, value) := by
  obtain ⟨found, -⟩ := lookup_eq_some_iff.1 h
  rw [← same] at found
  obtain ⟨value, fetched⟩ := fits.exists_fetch found
  exact ⟨value, lookup_eq_some_iff.2 ⟨found, fetched⟩⟩

theorem Fits.lookup_none_of_shape_eq (fits : store.Fits) (fits' : later.Fits)
    (same : later.shape = store.shape) (h : store.lookup name = none) :
    later.lookup name = none := by
  rw [fits'.lookup_eq_none_iff, same]
  exact fits.lookup_eq_none_iff.1 h

end AttributeStore

namespace World

variable {world later : World} {name : String} {limit : Nat} {receiver other : ObjectId}
  {resolution : Resolution} {found : Found} {value : Value}

/-! ## Searching along classes -/

/-- **A search is repeated while its tokens are valid.** The later world may have more classes, so
its lineages may be longer; the search does not come so far. -/
theorem walk_persists (sound : world.Sound) (sound' : later.Sound) (ext : world.Extends later)
    {fuel fuel' budget : Nat} (longer : fuel ≤ fuel') {first : Option ClassId}
    (created : ∀ c ∈ first, world.HasClass c)
    (h : world.walk name budget (world.lineageWithin fuel first) = .ok found)
    (valid : ∀ hop ∈ found.hops, later.holds hop.assumption = true) :
    ∃ value, later.walk name budget (later.lineageWithin fuel' first) =
      .ok ⟨found.hops, found.location, value⟩ := by
  -- Induction on the length of the earlier lineage; the later one is cut at the same class.
  induction fuel generalizing fuel' budget first found with
  | zero => simp [lineageWithin, walk] at h
  | succ fuel ih =>
    obtain ⟨fuel', rfl⟩ : ∃ n, fuel' = n + 1 := ⟨fuel' - 1, by omega⟩
    cases first with
    | none => simp [lineageWithin, walk] at h
    | some c =>
      have hc : world.HasClass c := created c rfl
      have fits : (world.attributes (.cls c)).Fits := sound.fits (.object (.cls c)) hc
      have fits' : (later.attributes (.cls c)).Fits :=
        sound'.fits (.object (.cls c)) (ext.hasClass hc)
      cases budget with
      | zero => simp [lineageWithin, walk] at h
      | succ budget =>
        rw [lineageWithin, walk] at h
        cases own : world.lookupOwn (.cls c) name with
        | some slot =>
          obtain ⟨location, value⟩ := slot
          simp only [own] at h
          cases h
          have still := ext.unmoved c hc (valid _ (List.mem_singleton_self _))
          obtain ⟨value, own'⟩ := fits'.lookup_of_shape_eq still.layout own
          refine ⟨value, ?_⟩
          rw [lineageWithin, walk, lookupOwn, own', hop, hop, still.assumption]
        | none =>
          simp only [own] at h
          cases rest : world.walk name budget (world.lineageWithin fuel (world.superclass c)) with
          | error absence => simp [rest] at h
          | ok found =>
            simp only [rest] at h
            cases h
            have still := ext.unmoved c hc (valid _ (List.mem_cons_self ..))
            have own' := fits.lookup_none_of_shape_eq fits' still.layout own
            have shorter : fuel ≤ fuel' := Nat.le_of_succ_le_succ longer
            obtain ⟨value, walked⟩ := ih shorter (sound.superclass c hc) rest
              fun hop h => valid hop (List.mem_cons_of_mem _ h)
            refine ⟨value, ?_⟩
            rw [lineageWithin, walk, lookupOwn, own', still.superclass, walked, hop, hop,
              still.assumption]

/-- The last class visited defines the name. -/
theorem walk_definer {budget : Nat} {classes : List ClassId}
    (h : world.walk name budget classes = .ok found) :
    ∃ definer, found.hops.getLast? = some definer ∧
      world.lookupOwn (.cls definer.cls) name = some (found.location, found.value) := by
  induction classes generalizing budget found with
  | nil => simp [walk] at h
  | cons c rest ih =>
    cases budget with
    | zero => simp [walk] at h
    | succ budget =>
      rw [walk] at h
      cases own : world.lookupOwn (.cls c) name with
      | some slot =>
        simp only [own] at h
        cases h
        exact ⟨world.hop c, rfl, own⟩
      | none =>
        simp only [own] at h
        cases walked : world.walk name budget rest with
        | error absence => simp [walked] at h
        | ok found =>
          simp only [walked] at h
          cases h
          obtain ⟨definer, last, own⟩ := ih walked
          exact ⟨definer, by simp [List.getLast?_cons, last], own⟩

/-! ## Resolving -/

/-- Where the search for an inherited attribute begins, and what it hangs on besides the classes
that it visits. A module inherits nothing. -/
def entry (world : World) : ObjectId → Option (ReceiverCheck × Option ClassId)
  | .inst i =>
    some (⟨world.classOf i, .layout (world.layout (.inst i))⟩, some (world.classOf i))
  | .cls c => some (⟨c, .token (world.currentAssumption c)⟩, world.superclass c)
  | .mod _ => none

/-- The search begins at a class that is there. -/
theorem hasClass_of_entry (sound : world.Sound) (hr : world.HasObject receiver)
    {check : ReceiverCheck} {first : Option ClassId}
    (enters : world.entry receiver = some (check, first)) : ∀ c ∈ first, world.HasClass c := by
  rcases receiver with i | c | m <;> cases enters
  · rintro c ⟨⟩
    exact sound.classOf i hr
  · exact sound.superclass c hr

theorem resolve_of_absent {check : ReceiverCheck} {first : Option ClassId}
    (absent : world.lookupOwn receiver name = none)
    (enters : world.entry receiver = some (check, first)) :
    world.resolve limit receiver name =
      world.resolveInherited limit receiver name check first := by
  unfold resolve
  rw [absent]
  rcases receiver with i | c | m
  · cases enters
    rfl
  · cases enters
    rfl
  · cases enters

/-- A resolution is that of an own attribute, or the result of a search. -/
theorem resolve_cases (h : world.resolve limit receiver name = .ok resolution) :
    (∃ location value, world.lookupOwn receiver name = some (location, value) ∧
        resolution = ⟨0, location, value, .own (world.layout receiver)⟩) ∨
      ∃ check first found, world.lookupOwn receiver name = none ∧
        world.entry receiver = some (check, first) ∧
        world.walk name limit (world.lineage first) = .ok found ∧
        resolution =
          ⟨found.hops.length, found.location, found.value, .inherited check found.hops⟩ := by
  cases own : world.lookupOwn receiver name with
  | some slot =>
    obtain ⟨location, value⟩ := slot
    rw [resolve_own own] at h
    cases h
    exact .inl ⟨location, value, rfl, rfl⟩
  | none =>
    cases enters : world.entry receiver with
    | none =>
      rcases receiver with i | c | m
      · cases enters
      · cases enters
      · simp [resolve, own] at h
    | some start =>
      obtain ⟨check, first⟩ := start
      rw [resolve_of_absent own enters, resolveInherited] at h
      split at h
      · next found walked =>
        cases h
        exact .inr ⟨check, first, found, rfl, rfl, walked, rfl⟩
      · cases h
      · cases h

/-! ## What a receiver keeps -/

/-- A receiver that passes the check of an earlier one still lacks the name, and its search begins
where the earlier one began and hangs on the same. -/
theorem entry_persists (sound : world.Sound) (sound' : later.Sound) (ext : world.Extends later)
    (hr : world.HasObject receiver) (ho : later.HasObject other) {check : ReceiverCheck}
    {first : Option ClassId} (absent : world.lookupOwn receiver name = none)
    (enters : world.entry receiver = some (check, first))
    (pass : check.check later other = .pass) :
    later.lookupOwn other name = none ∧ later.entry other = some (check, first) ∧
      ∀ c ∈ first, world.HasClass c := by
  have fits : (world.attributes receiver).Fits := sound.fits (.object receiver) hr
  have fits' : (later.attributes other).Fits := sound'.fits (.object other) ho
  rcases receiver with i | c | m
  · cases enters
    rcases other with j | d | m <;> simp only [ReceiverCheck.check, reduceCtorEq] at pass
    split at pass
    · next same =>
      have before := ext.space.published _ (sound.published (.object (.inst i)) hr)
      have now := sound'.published (.object (.inst j)) ho
      have layout : later.layout (.inst j) = world.layout (.inst i) :=
        ShapeSpace.Published.eq_of_same now before same.2
      refine ⟨fits.lookup_none_of_shape_eq fits' layout absent, by rw [entry, same.1, layout], ?_⟩
      rintro c ⟨⟩
      exact sound.classOf i hr
    · exact nomatch pass
  · cases enters
    rcases other with j | d | m <;> simp only [ReceiverCheck.check, reduceCtorEq] at pass
    split at pass
    · exact nomatch pass
    · next same =>
      obtain rfl : d = c := by simpa using same
      split at pass
      · next valid =>
        have still := ext.unmoved d hr valid
        exact ⟨fits.lookup_none_of_shape_eq fits' still.layout absent,
          by rw [entry, still.superclass, still.assumption], sound.superclass d hr⟩
      · exact nomatch pass
  · cases enters

end World

/-! ## Guards -/

namespace Guard

variable {world : World} {receiver : ObjectId} {location : Location} {guard : Guard} {value : Value}

/-- The guard is checked without error. -/
def Consistent : Guard → Prop
  | chain _ hops depth => 0 < depth ∧ hops.length = depth
  | _ => True

theorem Consistent.check_ok (consistent : guard.Consistent) (world : World)
    (receiver : ObjectId) : ∃ outcome, guard.check world receiver = .ok outcome := by
  rcases guard with shape | ⟨captured, definer⟩ | ⟨captured, hops, depth⟩
  · exact ⟨_, rfl⟩
  · rw [check]
    split <;> exact ⟨_, rfl⟩
  · obtain ⟨positive, same⟩ := consistent
    have consistent : ¬ (depth = 0 ∨ hops.length ≠ depth) := by omega
    rw [check, checkChain, if_neg consistent]
    split
    · split <;> exact ⟨_, rfl⟩
    · exact ⟨_, rfl⟩

theorem Consistent.probe_ok (consistent : guard.Consistent) (world : World)
    (receiver : ObjectId) (location : Location) :
    ∃ probe, guard.probe world receiver location = .ok probe := by
  obtain ⟨outcome, checked⟩ := consistent.check_ok world receiver
  rcases guard with shape | ⟨captured, definer⟩ | ⟨captured, hops, depth⟩
  · rw [probe]
    split <;> exact ⟨_, rfl⟩
  · simp only [probe, checked]
    cases outcome <;> exact ⟨_, rfl⟩
  · have ne : hops ≠ [] := List.ne_nil_of_length_pos (consistent.2.symm ▸ consistent.1)
    simp only [probe, checked, List.getLast?_eq_getLast_of_ne_nil ne]
    cases outcome <;> exact ⟨_, rfl⟩

/-- **Every resolution has a guard**, one that is checked without error. -/
theorem exists_ofResolution {limit : Nat} {name : String} {resolution : Resolution}
    (h : world.resolve limit receiver name = .ok resolution) :
    ∃ guard, ofResolution resolution = .ok guard ∧ guard.Consistent := by
  rcases World.resolve_cases h with
    ⟨location, value, -, rfl⟩ | ⟨check, first, found, -, -, walked, rfl⟩
  · exact ⟨_, rfl, trivial⟩
  · obtain ⟨-, positive, -⟩ := World.walk_hops walked
    rcases found with ⟨_ | ⟨hop, _ | ⟨next, rest⟩⟩, location, value⟩
    · exact absurd positive (Nat.lt_irrefl 0)
    · exact ⟨_, rfl, trivial⟩
    · exact ⟨_, rfl, Nat.succ_pos _, rfl⟩

/-! ## Hits -/

theorem holds_of_hopsHold {hops : List Hop} (h : world.hopsHold hops = true) :
    ∀ hop ∈ hops, world.holds hop.assumption = true := by
  induction hops with
  | nil => simp
  | cons hop rest ih =>
    cases rest with
    | nil => simpa [World.hopsHold] using h
    | cons next rest =>
      simp only [World.hopsHold, Bool.and_eq_true] at h
      obtain ⟨⟨valid, -⟩, others⟩ := h
      exact List.forall_mem_cons.2 ⟨valid, ih others⟩

theorem layout_of_hit {shape : Shape}
    (hit : (layout shape).probe world receiver location = .ok (.hit value)) :
    (world.layout receiver).same shape = true ∧
      (world.attributes receiver).fetch location = some value := by
  rw [probe] at hit
  split at hit
  · next fetched =>
    cases hit
    rw [World.fetchIfShape, AttributeStore.fetchIfShape] at fetched
    split at fetched
    · next same => exact ⟨same, fetched⟩
    · cases fetched
  · cases hit

theorem fetch_of_fetchFrom {definer : Hop} (hit : fetchFrom world definer location = .hit value) :
    (world.attributes (.cls definer.cls)).fetch location = some value := by
  rw [fetchFrom, World.fetchIfStable] at hit
  split at hit
  · cases fetched : (world.attributes (.cls definer.cls)).fetch location with
    | none => simp [fetched, Probe.ofFetch] at hit
    | some v =>
      rw [fetched] at hit
      cases hit
      rfl
  · cases hit

/-- What a hit on a class guard or a chain guard says of the world. -/
structure Reaches (world : World) (receiver : ObjectId) (captured : ReceiverCheck)
    (hops : List Hop) (location : Location) (value : Value) : Prop where
  pass : captured.check world receiver = .pass
  valid : ∀ hop ∈ hops, world.holds hop.assumption = true
  fetched : ∃ definer, hops.getLast? = some definer ∧
    (world.attributes (.cls definer.cls)).fetch location = some value

theorem reaches_of_cls_hit {captured : ReceiverCheck} {definer : Hop}
    (hit : (cls captured definer).probe world receiver location = .ok (.hit value)) :
    Reaches world receiver captured [definer] location value := by
  simp only [probe, check] at hit
  cases pass : captured.check world receiver <;> simp only [pass] at hit
  · by_cases valid : world.holds definer.assumption = true
    · simp only [valid, if_true, Except.ok.injEq] at hit
      exact ⟨pass, by simpa using valid, definer, rfl, fetch_of_fetchFrom hit⟩
    · simp [valid, Probe.ofOutcome] at hit
  · simp [Probe.ofOutcome] at hit
  · simp [Probe.ofOutcome] at hit

theorem reaches_of_chain_hit {captured : ReceiverCheck} {hops : List Hop} {depth : Nat}
    (hit : (chain captured hops depth).probe world receiver location = .ok (.hit value)) :
    Reaches world receiver captured hops location value := by
  rw [probe] at hit
  split at hit
  · next checked =>
    rw [check, checkChain] at checked
    split at checked
    · cases checked
    · cases pass : captured.check world receiver <;> simp only [pass] at checked
      · split at checked
        · next held =>
          split at hit
          · next definer last =>
            rw [Bool.and_eq_true] at held
            simp only [Except.ok.injEq] at hit
            exact ⟨pass, holds_of_hopsHold held.2, definer, last, fetch_of_fetchFrom hit⟩
          · cases hit
        · cases checked
      · cases checked
      · cases checked
  · next outcome ne checked =>
    cases outcome
    · exact absurd rfl ne
    · simp [Probe.ofOutcome] at hit
    · simp [Probe.ofOutcome] at hit
  · cases hit

/-- The guard of a search that hits has valid tokens for all classes visited. -/
theorem reaches_of_hit {captured : ReceiverCheck} {hops : List Hop} {depth : Nat} {slot : Location}
    {found : Value}
    (guarded : ofResolution ⟨depth, slot, found, .inherited captured hops⟩ = .ok guard)
    (hit : guard.probe world receiver location = .ok (.hit value)) :
    Reaches world receiver captured hops location value := by
  unfold ofResolution at guarded
  dsimp only at guarded
  split at guarded
  · next e => cases e
  · next e =>
    cases e
    cases guarded
    exact reaches_of_cls_hit hit
  · next e _ =>
    cases e
    split at guarded
    · cases guarded
      exact reaches_of_chain_hit hit
    · cases guarded
  · next e _ => cases e

end Guard

/-! ## A hit answers as resolution by name -/

variable {world later : World} {name : String} {limit : Nat} {receiver other : ObjectId}
  {resolution : Resolution} {guard : Guard} {value : Value}

/-- **A hit repeats the resolution**, up to the value. The guard was made in the earlier world, for
a receiver that need not be the one that it is probed with in the later world. -/
theorem resolve_eq_of_probe_hit (sound : world.Sound) (sound' : later.Sound)
    (ext : world.Extends later) (hr : world.HasObject receiver) (ho : later.HasObject other)
    (resolved : world.resolve limit receiver name = .ok resolution)
    (guarded : Guard.ofResolution resolution = .ok guard)
    (hit : guard.probe later other resolution.location = .ok (.hit value)) :
    later.resolve limit other name = .ok { resolution with value } := by
  rcases World.resolve_cases resolved with
    ⟨location, old, own, rfl⟩ | ⟨check, first, found, absent, enters, walked, rfl⟩
  · -- An own attribute: the receiver has the very layout in which it was found.
    cases guarded
    obtain ⟨same, fetched⟩ := Guard.layout_of_hit hit
    have before := ext.space.published _ (sound.published (.object receiver) hr)
    have now := sound'.published (.object other) ho
    have layout : later.layout other = world.layout receiver :=
      ShapeSpace.Published.eq_of_same now before same
    have own' : later.lookupOwn other name = some (location, value) := by
      rw [World.lookupOwn, AttributeStore.lookup_eq_some_iff] at own ⊢
      exact ⟨(congrArg (·.find? name) layout).trans own.1, fetched⟩
    rw [World.resolve_own own' limit, layout]
  · -- An inherited one: the receiver still lacks it, and its search takes the same way.
    obtain ⟨pass, valid, definer, last, fetched⟩ := Guard.reaches_of_hit guarded hit
    obtain ⟨absent', enters', created⟩ :=
      World.entry_persists sound sound' ext hr ho absent enters pass
    have longer : world.classes.size ≤ later.classes.size := ext.classes_size_le
    obtain ⟨again, walked'⟩ := World.walk_persists sound sound' ext longer created walked valid
    obtain ⟨definer', last', own'⟩ := World.walk_definer walked'
    have same : definer' = definer := Option.some.inj (last'.symm.trans last)
    subst same
    have value_eq : again = value := by
      rw [World.lookupOwn, AttributeStore.lookup_eq_some_iff] at own'
      exact Option.some.inj (own'.2.symm.trans fetched)
    rw [World.resolve_of_absent absent' enters', World.resolveInherited, World.lineage, walked',
      value_eq]

/-- **A hit answers as resolution by name.** -/
theorem resolve_of_probe_hit (sound : world.Sound) (sound' : later.Sound)
    (ext : world.Extends later) (hr : world.HasObject receiver) (ho : later.HasObject other)
    (resolved : world.resolve limit receiver name = .ok resolution)
    (guarded : Guard.ofResolution resolution = .ok guard)
    (hit : guard.probe later other resolution.location = .ok (.hit value)) :
    ∃ again, later.resolve limit other name = .ok again ∧ again.value = value ∧
      again.depth = resolution.depth ∧ again.location = resolution.location ∧
      again.definingClass = resolution.definingClass :=
  ⟨_, resolve_eq_of_probe_hit sound sound' ext hr ho resolved guarded hit, rfl, rfl, rfl, rfl⟩

end InlineCache
