import SceneEditor.Proofs.Session.Run
import SceneEditor.Proofs.World.Snapshot

namespace SceneEditor

/-!
# The world mirrors the server

Two kinds of event move the world: a snapshot that is accepted, and a seek that is completed.  What
each field of the world holds is told by the last event that speaks of the field.  Everything
else that happens in a session, dropped messages among it, is no event and moves nothing.
-/

/-- What moves the world. -/
inductive WorldEvent where
  /-- A snapshot was accepted. -/
  | accepted (snapshot : Snapshot)
  /-- A seek to a time was completed. -/
  | sought (time : Binary64)
  deriving Repr

namespace WorldEvent

/-- The value of a field that keeps its old value where a snapshot does not carry it. -/
def keeping (field? : Snapshot → Option α) : WorldEvent → Option α
  | accepted snapshot => field? snapshot
  | sought _ => none

/-- The value of a field that becomes empty where a snapshot does not carry it. -/
def emptying (field? : Snapshot → Option (List α)) : WorldEvent → Option (List α)
  | accepted snapshot => some ((field? snapshot).getD [])
  | sought _ => none

/-- The time that an event sets. -/
def time? : WorldEvent → Option Binary64
  | accepted snapshot => snapshot.time?
  | sought time => some time

/-- The value of the last event that speaks of a field, or the value at the start. -/
def last (view? : WorldEvent → Option α) (events : List WorldEvent) (start : α) : α :=
  (events.filterMap view?).getLastD start

/-- What a later event sets takes the place of what an earlier one did. -/
theorem last_cons
    (view? : WorldEvent → Option α)
    (event : WorldEvent)
    (events : List WorldEvent)
    (start : α) :
    last view? (event :: events) start = last view? events ((view? event).getD start) := by
  cases seen : view? event with
  | none =>
      rw [last, List.filterMap_cons_none seen]
      rfl
  | some value =>
      rw [last, List.filterMap_cons_some seen, List.getLastD_cons]
      rfl

/-- The world behind an event. -/
def move (world : World) : WorldEvent → World
  | accepted snapshot => world.update snapshot
  | sought time => { world with currentTime := time }

/-- Each field of a world holds what the last event that speaks of it says. -/
structure Mirrors (start : World) (events : List WorldEvent) (world : World) : Prop where
  points : world.points = last (keeping Snapshot.points?) events start.points
  connections : world.connections = last (keeping Snapshot.connections?) events start.connections
  faces : world.faces = last (keeping Snapshot.faces?) events start.faces
  collections : world.collections = last (emptying Snapshot.collections?) events start.collections
  currentTime : world.currentTime = last time? events start.currentTime
  isPlaying : world.isPlaying = last (keeping Snapshot.flag?) events start.isPlaying
  clips : world.clips = last (emptying Snapshot.clips?) events start.clips

theorem Mirrors.nil (world : World) :
    Mirrors world [] world :=
  ⟨rfl, rfl, rfl, rfl, rfl, rfl, rfl⟩

/-- A mirror of the events that follow the first one is a mirror of all of them. -/
theorem Mirrors.cons
    {start world : World}
    {event : WorldEvent}
    {events : List WorldEvent}
    (rest : Mirrors (move start event) events world) :
    Mirrors start (event :: events) world := by
  constructor
  · rw [last_cons, rest.points]
    cases event <;> rfl
  · rw [last_cons, rest.connections]
    cases event <;> rfl
  · rw [last_cons, rest.faces]
    cases event <;> rfl
  · rw [last_cons, rest.collections]
    cases event <;> rfl
  · rw [last_cons, rest.currentTime]
    cases event <;> rfl
  · rw [last_cons, rest.isPlaying]
    cases event <;> rfl
  · rw [last_cons, rest.clips]
    cases event <;> rfl

end WorldEvent

namespace Session

/-- The event that an action is, if it moves the world. -/
def Action.event? (settings : TimelineSettings) : Action → Option WorldEvent
  | .receive message => message.snapshot?.map .accepted
  | .seek time => (seekTarget? settings time).map .sought
  | _ => none

/-- An action that does not move the world is no event. -/
theorem Action.event?_eq_none
    {settings : TimelineSettings}
    {action : Action}
    (still : action.movesWorld settings = false) :
    action.event? settings = none := by
  cases action with
  | receive message =>
      exact Bool.noConfusion still
  | seek time =>
      have target : seekTarget? settings time = none := by
        simpa [movesWorld] using still
      rw [event?, target]
      rfl
  | _ =>
      rfl

/-- A step moves the world as its event does, and not at all if it is none. -/
theorem Step.world
    {session later : Session}
    {action : Action}
    (step : Step session action later) :
    later.world =
      ((action.event? session.timeline.settings).map (WorldEvent.move session.world)).getD
        session.world := by
  cases step with
  | quiet still kept =>
      rw [Action.event?_eq_none still]
      exact kept.world
  | merged held =>
      rw [Action.event?, held]
      rfl
  | dropped refused =>
      rw [Action.event?, refused]
      rfl
  | sought target =>
      rw [Action.event?, target]
      rfl
  | added =>
      rfl
  | edited edit =>
      rfl

/-- A session mirrors the events of its actions. -/
theorem mirrors_events
    (session : Session)
    (actions : List Action) :
    WorldEvent.Mirrors session.world
      (actions.filterMap (Action.event? session.timeline.settings))
      (session.run actions).world := by
  induction actions generalizing session with
  | nil =>
      exact WorldEvent.Mirrors.nil session.world
  | cons action rest inductionHypothesis =>
      have later := inductionHypothesis (session.after action)
      have step := session.step_after action
      rw [step.settings] at later
      have moved := step.world
      cases seen : action.event? session.timeline.settings with
      | none =>
          rw [List.filterMap_cons_none seen]
          rw [seen] at moved
          rw [moved] at later
          exact later
      | some event =>
          rw [List.filterMap_cons_some seen]
          rw [seen] at moved
          rw [moved] at later
          exact later.cons

/--
However messages and the user's actions follow each other, the snapshots that were accepted and
the seeks that were completed decide the world, field by field.  At any time a message is accepted
exactly if it holds a snapshot, and an action that is neither an accepted message nor a
completed seek leaves the whole world as it is.
-/
theorem run_mirrors
    (session : Session)
    (actions : List Action) :
    WorldEvent.Mirrors session.world
        (actions.filterMap (Action.event? session.timeline.settings))
        (session.run actions).world ∧
      (∀ message,
        ((session.run actions).receive message).result = message.snapshot?.isSome) ∧
      ∀ action, action.event? session.timeline.settings = none →
        ((session.run actions).after action).world = (session.run actions).world := by
  have settings := settings_run session actions
  refine ⟨mirrors_events session actions, ?_, ?_⟩
  · intro message
    cases held : message.snapshot? with
    | none =>
        obtain ⟨note, received⟩ := (session.run actions).receive_dropped held
        simp [received]
    | some snapshot =>
        simp [(session.run actions).receive_accepted held]
  · intro action silent
    rw [((session.run actions).step_after action).world, settings, silent]
    rfl

/-- A snapshot, a seek that overtakes it, and a message that holds no snapshot. -/
theorem run_mirrors_seek :
    let refused : Action := .receive (.text "[]")
    let actions : List Action := [
      .receive (.text "\x7b\"isPlaying\": true, \"currentTime\": 2\x7d"),
      .seek (.number (.int 5)),
      refused
    ]
    let session := (fresh none {}).run actions
    session.world.isPlaying = true ∧ session.world.currentTime = 5 ∧
      refused.event? {} = none ∧ (session.after refused).world = session.world := by
  intro refused actions session
  obtain ⟨mirrors, -, silent⟩ := run_mirrors (fresh none {}) actions
  have isPlaying :
      WorldEvent.last (WorldEvent.keeping Snapshot.flag?)
        (actions.filterMap (Action.event? {})) false = true := by
    decide +kernel
  have currentTime :
      WorldEvent.last WorldEvent.time? (actions.filterMap (Action.event? {})) 0 = 5 := by
    decide +kernel
  have noEvent : refused.event? {} = none := by
    decide +kernel
  exact ⟨mirrors.isPlaying.trans isPlaying, mirrors.currentTime.trans currentTime, noEvent,
    silent refused noEvent⟩

end Session

end SceneEditor
