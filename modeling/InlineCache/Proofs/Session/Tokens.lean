import InlineCache.Proofs.Session.Growth
import Mathlib.Data.List.Induction

/-!
# Tokens along histories

A class keeps its token until a write gives it another layout or a change of its superclass is
carried out; then the token is retired for good, and the class holds a fresh one. Nothing else
retires a token of a class but a client that invalidates it. So a token is valid exactly as long as
none of this has happened, and no token is ever held by two classes.

## Main definitions

* `Session.Renews`, `Session.RenewedIn`: the actions that retire the token of a class
* `World.Steady`, `World.Fresh`: how an action may move tokens
* `Session.Effect`: what an admitted action does to the tokens

## Main results

* `effect`: every admitted action has one of the four effects
* `holds_run_iff`: when the token of a class survives a history
* `holds_current_iff`: when the present token of a class is valid
* `token_sound_and_precise`: what a token says, and when it says it
-/

namespace InlineCache

namespace World

/-- No class is new, every class holds the token that it held, and tokens are as valid as they
were. -/
structure Steady (world later : World) : Prop where
  hasClass : ∀ c, later.HasClass c → world.HasClass c
  current : ∀ c, later.currentAssumption c = world.currentAssumption c
  holds : ∀ a, world.HasAssumption a → later.holds a = world.holds a

theorem Steady.refl (world : World) : world.Steady world :=
  ⟨fun _ h => h, fun _ => rfl, fun _ _ => rfl⟩

/-- The class holds a fresh token, a valid one; the others hold what they held. -/
structure Fresh (world later : World) (c : ClassId) : Prop where
  freshens : world.Freshens later c
  valid : later.holds world.mint.1 = true

variable {world : World} {c : ClassId}

theorem newClass_fresh (world : World) (registry : RegistryId) (name : String)
    (superclass : Option ClassId) :
    world.Fresh (world.newClass registry name superclass).2 ⟨world.classes.size⟩ :=
  ⟨newClass_freshens world registry name superclass, holds_mint world⟩

/-- Renewing a token after the class was disturbed. -/
theorem Disturbs.fresh {between : World} (disturbs : world.Disturbs between c)
    (hc : world.HasClass c) (sound : world.Sound) :
    world.Fresh (between.renewAssumption c).2 c := by
  have hasClass (d : ClassId) : between.HasClass d ↔ world.HasClass d :=
    disturbs.hasHolder_iff (.object (.cls d))
  have minted (a : Assumption) : between.HasAssumption a ↔ world.HasAssumption a := by
    simp only [HasAssumption, disturbs.assumptions]
  have mint : between.mint.1 = world.mint.1 := by
    simp only [World.mint, disturbs.assumptions]
  have freshens := renewAssumption_freshens ((hasClass c).2 hc)
  refine ⟨⟨fun a => ?_, mint ▸ freshens.fresh, fun d hd ne => ?_⟩, ?_⟩
  · rw [freshens.hasAssumption_iff, minted, mint]
  · obtain ⟨old, kept⟩ := freshens.kept d hd ne
    exact ⟨(hasClass d).1 old, kept.trans (disturbs.unmoved d ne).assumption⟩
  · rw [← mint]
    refine holds_renewAssumption_fresh ((minted _).2 ?_)
    rw [disturbs.current]
    exact sound.minted c hc

/-- The renewal retires the token of the class, and no other. -/
theorem Disturbs.holds_iff {between : World} (disturbs : world.Disturbs between c)
    {a : Assumption} (ha : world.HasAssumption a) :
    (between.renewAssumption c).2.holds a = true ↔
      world.holds a = true ∧ a ≠ world.currentAssumption c := by
  have minted : between.HasAssumption a := by
    rwa [HasAssumption, disturbs.assumptions]
  rw [holds_renewAssumption_iff minted, disturbs.current, holds, disturbs.assumptions]
  rfl

end World

namespace Session

variable {session : Session} {action : Action} {c : ClassId}

/-- The action is a write to the class that added a name or widened a slot, or a change of its
superclass that was carried out. -/
def Renews (session : Session) (c : ClassId) (action : Action) : Prop :=
  match action with
  | .setAttribute _ holder _ _ =>
    holder = .object (.cls c) ∧ ((session.perform action).answer = .wrote .added ∨
      (session.perform action).answer = .wrote .widened)
  | .setSuperclass cls _ => cls = c ∧ (session.perform action).answer = .done
  | _ => False

/-- Some action of the history does. -/
def RenewedIn (session : Session) (c : ClassId) : List Action → Prop
  | [] => False
  | action :: rest => session.Renews c action ∨ (session.after action).RenewedIn c rest

/-- What an admitted action does to the tokens. -/
inductive Effect (session : Session) (action : Action) : Prop where
  /-- Nothing. -/
  | steady (steady : session.world.Steady (session.after action).world)
      (keeps : ∀ c, ¬ session.Renews c action) (spares : ∀ a, action ≠ .invalidate a)
  /-- It invalidates one, as a client asked. -/
  | invalidates (a : Assumption) (asked : action = .invalidate a)
  /-- It creates a class, with a fresh one. -/
  | creates (c : ClassId) (new : ¬ session.world.HasClass c)
      (fresh : session.world.Fresh (session.after action).world c)
      (holds : ∀ a, session.world.HasAssumption a →
        (session.after action).world.holds a = session.world.holds a)
      (keeps : ∀ c, ¬ session.Renews c action) (spares : ∀ a, action ≠ .invalidate a)
  /-- It retires that of a class, which gets a fresh one. -/
  | renews (c : ClassId) (created : session.world.HasClass c) (renewed : session.Renews c action)
      (only : ∀ d, session.Renews d action → d = c)
      (fresh : session.world.Fresh (session.after action).world c)
      (holds : ∀ a, session.world.HasAssumption a →
        ((session.after action).world.holds a = true ↔
          session.world.holds a = true ∧ a ≠ session.world.currentAssumption c))
      (spares : ∀ a, action ≠ .invalidate a)

/-! ## Writes -/

section Write

variable {registry : RegistryId} {holder : Holder} {name : String} {value : Value}

theorem answer_setAttribute :
    (session.perform (.setAttribute registry holder name value)).answer =
      .wrote (session.world.written registry holder name value).outcome :=
  congrArg Reply.wrote (World.setAttribute_answer ..)

/-- A write renews the token of a class exactly if it changes its layout. -/
theorem renews_setAttribute_iff :
    session.Renews c (.setAttribute registry holder name value) ↔ holder = .object (.cls c) ∧
      (session.world.written registry holder name value).outcome.changedShape = true := by
  unfold Renews
  rw [answer_setAttribute]
  cases (session.world.written registry holder name value).outcome <;>
    simp [WriteOutcome.changedShape]

/-- A write that changes the layout of a class renews its token. -/
theorem effect_of_changed (sound : session.world.Sound)
    (hr : session.world.HasRegistry registry) (hc : session.world.HasClass c)
    (changed : (session.world.written registry (.object (.cls c)) name value).outcome.changedShape =
      true) : session.Effect (.setAttribute registry (.object (.cls c)) name value) := by
  have disturbs : session.world.Disturbs
      (session.world.stored registry (.object (.cls c)) name value) c :=
    World.disturbs_stored sound hr hc
  have later : (session.after (.setAttribute registry (.object (.cls c)) name value)).world = _ :=
    World.world_setAttribute_of_changed changed
  refine .renews c hc (renews_setAttribute_iff.2 ⟨rfl, changed⟩) ?_ ?_ ?_ nofun
  · intro d renewed
    obtain ⟨same, -⟩ := renews_setAttribute_iff.1 renewed
    cases same
    rfl
  · rw [later]
    exact disturbs.fresh hc sound
  · intro a ha
    rw [later]
    exact disturbs.holds_iff ha

/-- Any other write moves no token. -/
theorem effect_of_kept (kept : ∀ c, holder = .object (.cls c) →
      (session.world.written registry holder name value).outcome.changedShape = false) :
    session.Effect (.setAttribute registry holder name value) := by
  have later : (session.after (.setAttribute registry holder name value)).world = _ :=
    World.world_setAttribute_of_kept kept
  refine .steady ⟨?_, ?_, ?_⟩ ?_ nofun
  · intro c hc
    rw [later] at hc
    exact (World.hasHolder_stored (.object (.cls c))).1 hc
  · intro c
    rw [later]
    exact World.currentAssumption_putStore ..
  · intro a _
    rw [later, World.holds, World.assumptions_stored]
    rfl
  · intro c renewed
    obtain ⟨here, changed⟩ := renews_setAttribute_iff.1 renewed
    rw [kept c here] at changed
    cases changed

theorem effect_setAttribute (sound : session.world.Sound) (name : String) (value : Value)
    (hr : session.world.HasRegistry registry) (hh : session.world.HasHolder holder) :
    session.Effect (.setAttribute registry holder name value) := by
  by_cases changed : ∃ c, holder = .object (.cls c) ∧
      (session.world.written registry holder name value).outcome.changedShape = true
  · obtain ⟨c, rfl, changed⟩ := changed
    exact effect_of_changed sound hr hh changed
  · apply effect_of_kept
    intro c here
    simpa using fun h => changed ⟨c, here, h⟩

end Write

/-! ## Changes of superclass, and all other actions -/

/-- A change of superclass that is carried out renews the token of the class. -/
theorem effect_setSuperclass (sound : session.world.Sound) {superclass : Option ClassId}
    (hc : session.world.HasClass c) : session.Effect (.setSuperclass c superclass) := by
  have spares (a : Assumption) : Action.setSuperclass c superclass ≠ .invalidate a := nofun
  cases result : session.world.setSuperclass c superclass with
  | error refusal =>
    have performed : session.perform (.setSuperclass c superclass) =
        ⟨.refused refusal, [], session⟩ := by simp only [perform, result]
    refine .steady ?_ ?_ spares
    · rw [after, performed]
      exact .refl _
    · rintro d ⟨-, answered⟩
      rw [performed] at answered
      cases answered
  | ok step =>
    have performed : session.perform (.setSuperclass c superclass) =
        ⟨.done, step.events.map .world, session.withWorld step.world⟩ := by
      simp only [perform, result]
    have later : (session.after (.setSuperclass c superclass)).world =
        ((session.world.rewired c superclass).renewAssumption c).2 := by
      rw [after, performed]
      exact World.setSuperclass_eq_ok result
    have disturbs := World.disturbs_rewired hc superclass
    refine .renews c hc ⟨rfl, by rw [performed]⟩ (fun d h => h.1.symm) ?_ ?_ spares
    · rw [later]
      exact disturbs.fresh hc sound
    · intro a ha
      rw [later]
      exact disturbs.holds_iff ha

/-- **Every admitted action has one of the four effects.** -/
theorem effect (sound : session.world.Sound) (admitted : session.Admits action) :
    session.Effect action := by
  cases action with
  | setAttribute registry holder name value =>
    exact effect_setAttribute sound name value admitted.1 admitted.2.1
  | setSuperclass c superclass => exact effect_setSuperclass sound admitted.1
  | invalidate a => exact .invalidates a rfl
  | newClass registry name superclass =>
    refine .creates ⟨session.world.classes.size⟩ (Nat.lt_irrefl _) ?_ ?_ (fun _ => id) nofun
    · exact World.newClass_fresh session.world registry name superclass
    · exact fun a ha => World.holds_mint_of_lt ha
  | mint =>
    refine .steady ⟨fun _ h => h, fun _ => rfl, ?_⟩ (fun _ => id) nofun
    exact fun a ha => World.holds_mint_of_lt ha
  | siteAt table place name =>
    refine .steady ?_ (fun _ => id) nofun
    rw [world_after_siteAt]
    exact .refl _
  | load table place name value =>
    refine .steady ?_ (fun _ => id) nofun
    rw [world_after_load]
    exact .refl _
  | _ => exact .steady ⟨fun _ h => h, fun _ => rfl, fun _ _ => rfl⟩ (fun _ => id) nofun

/-! ## One action -/

/-- A class whose token is not renewed holds the same one. -/
theorem Effect.current_eq (effect : session.Effect action) (hc : session.world.HasClass c)
    (hc' : (session.after action).world.HasClass c) (kept : ¬ session.Renews c action) :
    (session.after action).world.currentAssumption c = session.world.currentAssumption c := by
  cases effect with
  | steady steady => exact steady.current c
  | invalidates a asked =>
    subst asked
    rfl
  | creates d new fresh =>
    have ne : c ≠ d := by
      rintro rfl
      exact new hc
    exact (fresh.freshens.kept c hc' ne).2
  | renews d created renewed only fresh =>
    have ne : c ≠ d := by
      rintro rfl
      exact kept renewed
    exact (fresh.freshens.kept c hc' ne).2

/-- It is valid afterwards if it was, and no client invalidates it. -/
theorem Effect.holds_iff (effect : session.Effect action) (sound : session.world.Sound)
    (hc : session.world.HasClass c) (kept : ¬ session.Renews c action) :
    (session.after action).world.holds (session.world.currentAssumption c) = true ↔
      session.world.holds (session.world.currentAssumption c) = true ∧
        action ≠ .invalidate (session.world.currentAssumption c) := by
  have minted := sound.minted c hc
  cases effect with
  | steady steady _ spares => simp [steady.holds _ minted, spares]
  | invalidates a asked =>
    subst asked
    show (session.world.invalidate a).2.holds _ = true ↔ _
    by_cases same : session.world.currentAssumption c = a
    · simp [same, World.not_holds_invalidate]
    · simp [World.holds_invalidate_of_ne same, Ne.symm same]
  | creates d new fresh holds _ spares => simp [holds _ minted, spares]
  | renews d created renewed only fresh holds spares =>
    have ne : session.world.currentAssumption c ≠ session.world.currentAssumption d := by
      intro same
      cases sound.distinct c d hc created same
      exact kept renewed
    simp [holds _ minted, ne, spares]

/-- A token that is renewed is retired. -/
theorem Effect.not_holds (effect : session.Effect action) (sound : session.world.Sound)
    (hc : session.world.HasClass c) (renewed : session.Renews c action) :
    (session.after action).world.holds (session.world.currentAssumption c) = false := by
  cases effect with
  | steady _ keeps => exact absurd renewed (keeps c)
  | invalidates a asked =>
    subst asked
    cases renewed
  | creates _ _ _ _ keeps => exact absurd renewed (keeps c)
  | renews d created _ only fresh holds =>
    cases only c renewed
    rw [Bool.eq_false_iff, Ne, holds _ (sound.minted c hc)]
    exact fun valid => valid.2 rfl

/-- A class that is new, or whose token is renewed, holds a fresh token, a valid one. -/
theorem Effect.fresh_of_moved (effect : session.Effect action)
    (hc' : (session.after action).world.HasClass c)
    (moved : ¬ (session.world.HasClass c ∧ ¬ session.Renews c action)) :
    (session.after action).world.currentAssumption c = session.world.mint.1 ∧
      (session.after action).world.holds session.world.mint.1 = true ∧
      ∀ a, action ≠ .invalidate a := by
  cases effect with
  | steady steady keeps => exact absurd ⟨steady.hasClass c hc', keeps c⟩ moved
  | invalidates a asked =>
    subst asked
    exact absurd ⟨hc', id⟩ moved
  | creates d new fresh _ keeps spares =>
    by_cases same : c = d
    · exact ⟨same ▸ fresh.freshens.fresh, fresh.valid, spares⟩
    · exact absurd ⟨(fresh.freshens.kept c hc' same).1, keeps c⟩ moved
  | renews d created renewed only fresh _ spares =>
    by_cases same : c = d
    · exact ⟨same ▸ fresh.freshens.fresh, fresh.valid, spares⟩
    · exact absurd ⟨(fresh.freshens.kept c hc' same).1, fun h => same (only c h)⟩ moved

/-! ## Histories -/

/-- **When the token of a class survives a history**: it was valid, no action renewed it, and no
client invalidated it. -/
theorem Reachable.holds_run_iff (reached : session.Reachable) {history : List Action}
    (admitted : session.AdmitsAll history) (hc : session.world.HasClass c) :
    (session.run history).world.holds (session.world.currentAssumption c) = true ↔
      session.world.holds (session.world.currentAssumption c) = true ∧
        ¬ session.RenewedIn c history ∧
        .invalidate (session.world.currentAssumption c) ∉ history := by
  induction history generalizing session with
  | nil => simp [RenewedIn]
  | cons action rest ih =>
    have reached' := reached.after admitted.1
    have effect := effect reached.sound admitted.1
    have hc' := (grows_after reached.sound admitted.1).ext.hasClass hc
    by_cases renewed : session.Renews c action
    · -- Retired by the first action, the token stays invalid.
      have retired := effect.not_holds reached.sound hc renewed
      have minted := (grows_after reached.sound admitted.1).ext.minted _
        (reached.sound.minted c hc)
      constructor
      · intro valid
        have before := (reached'.extends_run admitted.2).retired _ minted valid
        rw [retired] at before
        cases before
      · rintro ⟨-, kept, -⟩
        exact absurd (.inl renewed) kept
    · -- Otherwise the class holds the same token afterwards, and the rest decides.
      have same := effect.current_eq hc hc' renewed
      have rest := ih reached' admitted.2 hc'
      rw [same, effect.holds_iff reached.sound hc renewed] at rest
      rw [run_cons, rest, RenewedIn, List.mem_cons]
      simp only [renewed, false_or, not_or, and_assoc]
      constructor
      · rintro ⟨valid, spared, kept, absent⟩
        exact ⟨valid, kept, Ne.symm spared, absent⟩
      · rintro ⟨valid, kept, spared, absent⟩
        exact ⟨valid, Ne.symm spared, kept, absent⟩

/-- Only tokens that were minted are invalidated. -/
theorem hasAssumption_of_invalidated {history : List Action} (reached : session.Reachable)
    (admitted : session.AdmitsAll history) {a : Assumption} (mem : .invalidate a ∈ history) :
    (session.run history).world.HasAssumption a := by
  induction history generalizing session with
  | nil => cases mem
  | cons action rest ih =>
    have reached' := reached.after admitted.1
    rcases List.mem_cons.1 mem with rfl | mem
    · have minted := (grows_after reached.sound admitted.1).ext.minted a admitted.1
      exact (reached'.extends_run admitted.2).minted a minted
    · exact ih reached' admitted.2 mem

/-- **When the present token of a class is valid**: unless a client invalidated it. -/
theorem holds_current_iff {history : List Action} (admitted : empty.AdmitsAll history)
    (hc : (empty.run history).world.HasClass c) :
    (empty.run history).world.holds ((empty.run history).world.currentAssumption c) = true ↔
      .invalidate ((empty.run history).world.currentAssumption c) ∉ history := by
  induction history using List.reverseRecOn with
  | nil => exact absurd hc (Nat.not_lt_zero _)
  | append_singleton before action ih =>
    obtain ⟨earlier, last⟩ := admitsAll_append.1 admitted
    have reached := reachable_empty.run earlier
    have effect := effect reached.sound last.1
    rw [run_append] at hc ⊢
    rw [run_cons, run_nil] at hc ⊢
    by_cases stays : (empty.run before).world.HasClass c ∧ ¬ (empty.run before).Renews c action
    · obtain ⟨hc₀, kept⟩ := stays
      rw [effect.current_eq hc₀ hc kept, effect.holds_iff reached.sound hc₀ kept, ih earlier hc₀,
        List.mem_append, List.mem_singleton, not_or, eq_comm]
    · obtain ⟨fresh, valid, spares⟩ := effect.fresh_of_moved hc stays
      rw [fresh, valid]
      simp only [List.mem_append, List.mem_singleton, not_or, true_iff]
      refine ⟨fun mem => ?_, fun same => spares _ same.symm⟩
      exact World.not_hasAssumption_mint _
        (hasAssumption_of_invalidated reachable_empty earlier mem)

/-- No class but the one that holds a token ever comes to hold it. -/
theorem Reachable.current_ne_of_ne (reached : session.Reachable) {history : List Action}
    (admitted : session.AdmitsAll history) {a : Assumption} (ha : session.world.HasAssumption a)
    (others : ∀ d, session.world.HasClass d → d ≠ c → session.world.currentAssumption d ≠ a)
    (d : ClassId) (hd : (session.run history).world.HasClass d) (ne : d ≠ c) :
    (session.run history).world.currentAssumption d ≠ a := by
  induction history generalizing session with
  | nil => exact others d hd ne
  | cons action rest ih =>
    have grows := grows_after reached.sound admitted.1
    have effect := effect reached.sound admitted.1
    refine ih (reached.after admitted.1) admitted.2 (grows.ext.minted a ha) ?_ hd
    intro e he hne
    by_cases stays : session.world.HasClass e ∧ ¬ session.Renews e action
    · rw [effect.current_eq stays.1 he stays.2]
      exact others e stays.1 hne
    · rw [(effect.fresh_of_moved he stays).1]
      rintro rfl
      exact World.not_hasAssumption_mint _ ha

/-- **What the token of a class says, and when it says it.** The token that a class holds after one
history is looked at again after another. While it is valid the class holds it still, in the same
layout and with the same superclass; a renewal retires it for good; unless it was renewed or
invalidated by a client it is valid; and no other class holds it. -/
theorem token_sound_and_precise {first second : List Action} (earlier : empty.AdmitsAll first)
    (later : (empty.run first).AdmitsAll second) {c : ClassId}
    (hc : (empty.run first).world.HasClass c) :
    let before := empty.run first
    let after := before.run second
    let a := before.world.currentAssumption c
    (after.world.holds a = true → after.world.currentAssumption c = a ∧
        after.world.layout (.cls c) = before.world.layout (.cls c) ∧
        after.world.superclass c = before.world.superclass c) ∧
      (before.RenewedIn c second → ∀ third, after.AdmitsAll third →
        (after.run third).world.holds a = false) ∧
      (¬ before.RenewedIn c second → .invalidate a ∉ first ++ second →
        after.world.holds a = true) ∧
      ∀ d, after.world.HasClass d → d ≠ c → after.world.currentAssumption d ≠ a := by
  intro before after a
  have reached : before.Reachable := reachable_empty.run earlier
  have survives := reached.holds_run_iff later hc
  have minted : before.world.HasAssumption a := reached.sound.minted c hc
  refine ⟨fun valid => ?_, fun renewed third last => ?_, fun kept spared => ?_, ?_⟩
  · have unmoved := (reached.extends_run later).unmoved c hc valid
    exact ⟨unmoved.assumption, unmoved.layout, unmoved.superclass⟩
  · have reached' : after.Reachable := reached.run later
    rw [Bool.eq_false_iff]
    intro valid
    have between := (reached'.extends_run last).retired a
      ((reached.extends_run later).minted a minted) valid
    exact (survives.1 between).2.1 renewed
  · rw [List.mem_append, not_or] at spared
    exact survives.2 ⟨(holds_current_iff earlier hc).2 spared.1, kept, spared.2⟩
  · refine reached.current_ne_of_ne later minted fun d hd ne same => ?_
    exact ne (reached.sound.distinct d c hd hc same)

/-- A class and a subclass. -/
def baseAndDerived : List Action :=
  [.newRegistry, .newClass ⟨0⟩ "Base" none, .newClass ⟨0⟩ "Derived" (some ⟨0⟩)]

/-- A write that adds an attribute to a class renews its token, and not that of its subclass. -/
theorem token_sound_and_precise_of_inherited :
    let before := empty.run baseAndDerived
    let after := before.run [.setAttribute ⟨0⟩ (.object (.cls ⟨0⟩)) "x" (.int 1)]
    after.world.holds (before.world.currentAssumption ⟨1⟩) = true ∧
      ∀ third, after.AdmitsAll third →
        (after.run third).world.holds (before.world.currentAssumption ⟨0⟩) = false := by
  intro before after
  have earlier : empty.AdmitsAll baseAndDerived := by decide
  have later : before.AdmitsAll [.setAttribute ⟨0⟩ (.object (.cls ⟨0⟩)) "x" (.int 1)] := by decide
  have derived : before.world.HasClass ⟨1⟩ := by decide
  have base : before.world.HasClass ⟨0⟩ := by decide
  have kept : ¬ before.RenewedIn ⟨1⟩ [.setAttribute ⟨0⟩ (.object (.cls ⟨0⟩)) "x" (.int 1)] := by
    rintro (⟨other, -⟩ | never)
    · exact absurd other (by decide)
    · exact never
  have renewed : before.RenewedIn ⟨0⟩ [.setAttribute ⟨0⟩ (.object (.cls ⟨0⟩)) "x" (.int 1)] :=
    .inl ⟨rfl, .inl rfl⟩
  exact ⟨(token_sound_and_precise earlier later derived).2.2.1 kept (by decide),
    (token_sound_and_precise earlier later base).2.1 renewed⟩

end Session

end InlineCache
