import InlineCache.Proofs.Site.Reading

/-!
# The reports of a read tell what becomes of the site

Whoever follows the visible state of a site needs no more than its reports: a report of a node that
was dropped says which one to delete, a report of a node that was added says what to append, and a
report that the site turned generic says how the list ends. The positions in the reports are those
in the list at that moment: nodes that were dropped by the same walk are gone from it already.

## Main definitions

* `GuardKind.ofDepth`: the kind of the guard of an attribute at a depth
* `SiteEvent.apply`, `Profile.replay`: the visible state after a report, and after a list of reports
* `Site.passedOver`: the nodes that a walk tries in vain
* `Site.indicated`: the nodes that reports are about

## Main results

* `replay_readObject`: the reports of a read lead from the visible state before it to the one after
* `indicated_readObject`: its reports are about the nodes that the walk tries in vain, in their
  order
-/

namespace InlineCache

/-- The kind of the guard for an attribute `depth` classes away. -/
def GuardKind.ofDepth : Nat → GuardKind
  | 0 => layout
  | 1 => cls
  | _ => chain

/-- The visible state after a report. A report that does not fit the state before has none. -/
def SiteEvent.apply (profile : Profile) : SiteEvent → Option Profile
  | missed position => if position < profile.size then some profile else none
  | pruned position =>
    if position < profile.size then
      some { profile with guards := profile.guards.eraseIdx position }
    else none
  | specialized depth guard position =>
    if position = profile.size ∧ guard = .ofDepth depth then
      some { profile with guards := profile.guards ++ [guard] }
    else none
  | generalized cached =>
    if cached = profile.size then some { profile with terminal := .generic } else none

/-- The visible state after a list of reports, if each of them fits. -/
def Profile.replay (profile : Profile) (reports : List SiteEvent) : Option Profile :=
  reports.foldlM SiteEvent.apply profile

theorem Profile.replay_append (profile : Profile) (first second : List SiteEvent) :
    profile.replay (first ++ second) =
      (profile.replay first).bind fun later => later.replay second :=
  List.foldlM_append

theorem Profile.replay_cons (profile : Profile) (report : SiteEvent) (rest : List SiteEvent) :
    profile.replay (report :: rest) = (report.apply profile).bind fun later => later.replay rest :=
  List.foldlM_cons

namespace Site

variable {world : World} {receiver : ObjectId} {site : Site} {position : Nat}
  {front nodes : List CachedNode}

/-! ## The visible state -/

/-- The visible state of a site with these nodes. -/
def profileOf (terminal : Terminal) (nodes : List CachedNode) : Profile :=
  ⟨nodes.map fun node => node.guard.kind, terminal⟩

@[simp] theorem size_profileOf (terminal : Terminal) (nodes : List CachedNode) :
    (profileOf terminal nodes).size = nodes.length := by
  simp [profileOf, Profile.size]

theorem kind_eq_ofDepth {resolution : Resolution} {guard : Guard}
    (guarded : Guard.ofResolution resolution = .ok guard) :
    guard.kind = .ofDepth resolution.depth := by
  rw [Guard.kind_ofResolution guarded]
  match resolution.depth with
  | 0 => rfl
  | 1 => rfl
  | depth + 2 => simp [GuardKind.ofDepth]

theorem length_lt_size (terminal : Terminal) (front nodes : List CachedNode) (node : CachedNode) :
    front.length < (profileOf terminal (front ++ node :: nodes)).size := by
  simp only [size_profileOf, List.length_append, List.length_cons]
  omega

theorem apply_missed (terminal : Terminal) (front nodes : List CachedNode) (node : CachedNode) :
    (SiteEvent.missed front.length).apply (profileOf terminal (front ++ node :: nodes)) =
      some (profileOf terminal (front ++ node :: nodes)) :=
  if_pos (length_lt_size ..)

theorem apply_pruned (terminal : Terminal) (front nodes : List CachedNode) (node : CachedNode) :
    (SiteEvent.pruned front.length).apply (profileOf terminal (front ++ node :: nodes)) =
      some (profileOf terminal (front ++ nodes)) := by
  rw [SiteEvent.apply, if_pos (length_lt_size ..)]
  simp [profileOf, List.eraseIdx_append_of_length_le]

/-- **The reports of a walk** lead to the visible state of the nodes that it keeps. The nodes in
front of the walk are kept as well. -/
theorem replay_walk (world : World) (receiver : ObjectId) (terminal : Terminal)
    (front nodes : List CachedNode) :
    (profileOf terminal (front ++ nodes)).replay (walk world receiver front.length nodes).events =
      some (profileOf terminal (front ++ (walk world receiver front.length nodes).kept)) := by
  -- along the nodes: the position of the walk is the number of nodes in front of it
  induction nodes generalizing front with
  | nil => rfl
  | cons node rest ih =>
    rw [walk]
    split
    · rfl
    · have passed := ih (front ++ [node])
      rw [List.length_append, List.length_singleton, List.append_assoc, List.append_assoc,
        List.singleton_append, List.singleton_append] at passed
      rw [Profile.replay_cons, apply_missed, Option.bind_some]
      exact passed
    · rw [Profile.replay_cons, apply_pruned, Option.bind_some]
      exact ih front
    · rfl

theorem replay_readTerminal (world : World) (receiver : ObjectId) (site : Site) :
    site.profile.replay (site.readTerminal world receiver site.nodes.length).events =
      some (site.readTerminal world receiver site.nodes.length).site.profile := by
  have size : site.profile.size = site.nodes.length := size_profileOf site.terminal site.nodes
  unfold readTerminal
  split
  · rfl
  · split
    · simp only [generalize, readGeneric, Profile.replay_cons, SiteEvent.apply, size, if_true,
        Option.bind_some]
      rfl
    · unfold specialize
      split
      · rfl
      · split
        · rfl
        · next resolution resolved guard guarded =>
          have kind := kind_eq_ofDepth guarded
          simp only [Profile.replay_cons, SiteEvent.apply, size, kind, and_self, if_true,
            Option.bind_some]
          simp [Profile.replay, profile, kind]

theorem readObject_of_fellOff
    (ended : (walk world receiver 0 site.nodes).ending = .fellOff position) :
    (site.readObject world receiver).events = (walk world receiver 0 site.nodes).events ++
        ((site.passed world receiver).readTerminal world receiver
          (site.passed world receiver).nodes.length).events ∧
      (site.readObject world receiver).site =
        ((site.passed world receiver).readTerminal world receiver
          (site.passed world receiver).nodes.length).site := by
  have counted : (site.passed world receiver).nodes.length = position := by
    simpa [passed] using (walk_position ended).symm
  rw [counted]
  simp only [readObject, ended]
  exact ⟨rfl, rfl⟩

/-- **The reports of a read** lead from the visible state before it to the one after it. -/
theorem replay_readObject (world : World) (receiver : ObjectId) (site : Site) :
    site.profile.replay (site.readObject world receiver).events =
      some (site.readObject world receiver).site.profile := by
  have walked : site.profile.replay (walk world receiver 0 site.nodes).events =
      some (site.passed world receiver).profile :=
    replay_walk world receiver site.terminal [] site.nodes
  cases ended : (walk world receiver 0 site.nodes).ending with
  | hit value =>
    simp only [readObject, ended]
    exact walked
  | failed error =>
    simp only [readObject, ended]
    exact walked
  | fellOff position =>
    obtain ⟨events, after⟩ := readObject_of_fellOff ended
    rw [events, after, Profile.replay_append, walked, Option.bind_some]
    exact replay_readTerminal world receiver (site.passed world receiver)

/-! ## The nodes that reports are about -/

/-- The node does not answer, and leaves the read to the nodes behind it. -/
def isVain (world : World) (receiver : ObjectId) (node : CachedNode) : Bool :=
  match node.guard.probe world receiver node.location with
  | .ok .miss | .ok .stale => true
  | _ => false

/-- The nodes that a walk tries in vain. -/
def passedOver (world : World) (receiver : ObjectId) (nodes : List CachedNode) :
    List CachedNode :=
  nodes.takeWhile (isVain world receiver)

/-- The nodes that the reports are about, each with what the report says that its probe found. A
report gives the position of its node in the list at that moment. -/
def indicated : List CachedNode → List SiteEvent → List (Option CachedNode × Probe)
  | _, [] => []
  | nodes, .missed position :: rest => (nodes[position]?, .miss) :: indicated nodes rest
  | nodes, .pruned position :: rest =>
    (nodes[position]?, .stale) :: indicated (nodes.eraseIdx position) rest
  | nodes, _ :: rest => indicated nodes rest

/-- The report is about the node, and says what its probe found. -/
def Indicates (world : World) (receiver : ObjectId) (node : CachedNode)
    (report : Option CachedNode × Probe) : Prop :=
  report.1 = some node ∧ Probed world receiver node report.2

/-- The reports of a walk are about the nodes that it tries in vain. -/
theorem indicated_walk (world : World) (receiver : ObjectId) (front nodes : List CachedNode) :
    List.Forall₂ (Indicates world receiver) (passedOver world receiver nodes)
      (indicated (front ++ nodes) (walk world receiver front.length nodes).events) := by
  induction nodes generalizing front with
  | nil => exact .nil
  | cons node rest ih =>
    have here : (front ++ node :: rest)[front.length]? = some node := by simp
    rw [walk, passedOver, List.takeWhile_cons, isVain]
    cases probed : node.guard.probe world receiver node.location with
    | error error => exact .nil
    | ok probe =>
      cases probe with
      | hit value => exact .nil
      | miss =>
        have passed := ih (front ++ [node])
        rw [List.length_append, List.length_singleton, List.append_assoc,
          List.singleton_append] at passed
        exact .cons ⟨here, probed⟩ passed
      | stale =>
        have erased : (front ++ node :: rest).eraseIdx front.length = front ++ rest := by
          simp [List.eraseIdx_append_of_length_le]
        refine .cons ⟨here, probed⟩ ?_
        rw [erased]
        exact ih front

theorem indicated_append {tail : List SiteEvent} (silent : ∀ nodes, indicated nodes tail = [])
    (nodes : List CachedNode) (reports : List SiteEvent) :
    indicated nodes (reports ++ tail) = indicated nodes reports := by
  induction reports generalizing nodes with
  | nil => exact silent nodes
  | cons report rest ih => cases report <;> simp only [List.cons_append, indicated, ih]

/-- The end of the list reports of no node that was tried. -/
theorem indicated_readTerminal (site : Site) (position : Nat) (nodes : List CachedNode) :
    indicated nodes (site.readTerminal world receiver position).events = [] := by
  unfold readTerminal
  split
  · rfl
  · split
    · rfl
    · unfold specialize
      split
      · rfl
      · split <;> rfl

/-- **The reports of a read** are about the nodes that the walk tries in vain, in their order. -/
theorem indicated_readObject (world : World) (receiver : ObjectId) (site : Site) :
    List.Forall₂ (Indicates world receiver) (passedOver world receiver site.nodes)
      (indicated site.nodes (site.readObject world receiver).events) := by
  have walked := indicated_walk world receiver [] site.nodes
  cases ended : (walk world receiver 0 site.nodes).ending with
  | hit value =>
    simp only [readObject, ended]
    exact walked
  | failed error =>
    simp only [readObject, ended]
    exact walked
  | fellOff position =>
    obtain ⟨events, -⟩ := readObject_of_fellOff ended
    rw [events, indicated_append (indicated_readTerminal _ _)]
    exact walked

end Site

end InlineCache
