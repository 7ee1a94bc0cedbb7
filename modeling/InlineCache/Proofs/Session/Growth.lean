import InlineCache.Proofs.World.Writing

/-!
# Histories grow the object world

Every admitted action leads from a sound object world to a sound one that extends it. So the world
of a reachable session is sound, and whatever world a client looked at before is extended by the one
that it looks at now.

## Main results

* `grows_after`: one admitted action
* `Reachable.sound`: the world of a reachable session is sound
* `Reachable.extends_run`: a history extends the world that it starts from
-/

namespace InlineCache

namespace Session

variable {session : Session}

theorem world_after_siteAt (session : Session) (table : TableId) (place : Place) (name : String) :
    (session.after (.siteAt table place name)).world = session.world :=
  world_siteAt session table place name

theorem world_after_load (session : Session) (table : TableId) (place : Place) (name : String)
    (value : Value) : (session.after (.load table place name value)).world = session.world :=
  world_load session table place name value

/-- An operation on the space of shapes alone. -/
theorem grows_withSpace (sound : session.world.Sound) {result : Shape × ShapeSpace}
    (grown : session.world.space.Grows result) :
    session.world.Grows (session.withSpace result.2).world :=
  sound.grows_withSpace grown.sound grown.ext

/-- **An admitted action** leads from a sound world to a sound one that extends it. -/
theorem grows_after (sound : session.world.Sound) {action : Action}
    (admitted : session.Admits action) :
    session.world.Grows (session.after action).world := by
  cases action with
  | newRegistry =>
    obtain ⟨grown, ext⟩ := sound.space.newRegistry
    exact sound.grows_withSpace grown ext
  | newClass registry name superclass => exact sound.newClass admitted.1 name admitted.2
  | newInstance registry cls => exact sound.newInstance admitted.1 admitted.2
  | newModule registry name => exact sound.newModule admitted name
  | newStore registry => exact sound.newStore admitted
  | newStoreOn root => exact sound.newStoreOn admitted.1 admitted.2
  | copyStore store => exact sound.copyStore admitted
  | setAttribute registry holder name value =>
    exact sound.setAttribute admitted.1 admitted.2.1 name value
  | setSuperclass c superclass =>
    rw [after, perform]
    split
    · next step h => exact sound.setSuperclass admitted.1 admitted.2 h
    · exact .refl sound
  | mint => exact sound.mint
  | invalidate a => exact sound.invalidate a
  | publishRoot => exact grows_withSpace sound sound.space.publishRoot
  | withAttribute registry base name kind =>
    exact grows_withSpace sound (sound.space.withAttribute admitted.1 admitted.2 name kind).1
  | widen registry base name =>
    exact grows_withSpace sound (sound.space.widen admitted.1 admitted.2 name)
  -- What is left touches sites and tables only.
  | siteAt table place name =>
    rw [world_after_siteAt]
    exact .refl sound
  | load table place name value =>
    rw [world_after_load]
    exact .refl sound
  | newSite | read | readInt | readFloat | readBool | newTable | clearTable => exact .refl sound

/-- The world of a reachable session is sound. -/
theorem Reachable.sound (h : session.Reachable) : session.world.Sound :=
  Reachable.induction (motive := fun s => s.world.Sound) World.sound_empty
    (fun _ _ _ sound admitted => (grows_after sound admitted).sound) h

/-- **A history extends the world that it starts from.** -/
theorem Reachable.extends_run (h : session.Reachable) {history : List Action}
    (admitted : session.AdmitsAll history) :
    session.world.Extends (session.run history).world := by
  induction history generalizing session with
  | nil => exact .refl _
  | cons action rest ih =>
    have first := grows_after h.sound admitted.1
    exact first.ext.trans h.sound (ih (h.after admitted.1) admitted.2)

end Session

end InlineCache
