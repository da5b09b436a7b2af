import Mathlib.Data.List.DropRight
import SceneEditor.Material.BuildMode

namespace SceneEditor.BuildMode

/-!
# The protocol of building

What came of the toggles, disarms, cancellations and clicks so far tells what is armed and which
click is noted, whatever became of the catalog meanwhile.  A connection leads from the first click
since the last reset to another point, it has the color and the thickness that were armed, and no
click serves two connections.
-/

/-- What is done in build mode; a toggle comes with the catalog as it is then. -/
inductive Action where
  | toggle (catalog : Catalog) (material : Material)
  | disarm
  | cancel
  | click (pointId : Int)
  deriving Repr

/-- What came of an action. -/
inductive Event where
  | toggled (material : Material) (isArmed : Bool)
  | refused (error : DuplicateError)
  | disarmed
  | canceled
  | clicked (pointId : Int)
  | connected (pointId : Int) (command : Command)
  deriving DecidableEq, Repr

/-- Carry out an action, and tell what came of it. -/
def act (mode : BuildMode) : Action → BuildMode × Event
  | .toggle catalog material =>
      match mode.toggle catalog material with
      | .ok later => (later, .toggled material later.isArmed)
      | .error error => (mode, .refused error)
  | .disarm => ({}, .disarmed)
  | .cancel => (mode.cancel, .canceled)
  | .click pointId =>
      match mode.click pointId with
      | (later, some command) => (later, .connected pointId command)
      | (later, none) => (later, .clicked pointId)

/-- Do one thing after another, and collect what came of it. -/
def play (mode : BuildMode) : List Action → BuildMode × List Event
  | [] => (mode, [])
  | action :: rest =>
      let (later, event) := mode.act action
      let (last, events) := later.play rest
      (last, event :: events)

namespace Event

/-- After the event no click is noted. -/
def isReset : Event → Bool
  | toggled .. | disarmed | canceled | connected .. => true
  | refused _ | clicked _ => false

/-- What is armed after the event, if the event arms or disarms. -/
def armed? : Event → Option (Option (String × Num))
  | toggled material true => some (some (material.color, material.thickness))
  | toggled _ false | disarmed => some none
  | refused _ | canceled | clicked _ | connected .. => none

/-- The point of a click that made no connection. -/
def clicked? : Event → Option Int
  | clicked pointId => some pointId
  | _ => none

/-- The command that an event sends. -/
def command? : Event → Option Command
  | connected _ command => some command
  | _ => none

end Event

/-- The color and the thickness that the last armed material had then, unless it was disarmed. -/
def captured? (events : List Event) : Option (String × Num) :=
  ((events.filterMap Event.armed?).getLast?).join

/-- The first click since the last reset, with its place among all events. -/
def firstClick? (events : List Event) : Option (Nat × Int) :=
  let recent := events.rtakeWhile fun event => !event.isReset
  (recent.zipIdx (events.length - recent.length)).findSome? fun (event, place) =>
    event.clicked?.map (place, ·)

/-- What is armed and which click is noted is told by the events so far. -/
structure IsViewOf (mode : BuildMode) (events : List Event) : Prop where
  armed : mode.armed? = captured? events
  pending : mode.pending? = mode.armed?.bind fun _ => (firstClick? events).map Prod.snd

/-!
## One more event
-/

/-- The last event decides what is armed, if it says anything of it. -/
theorem captured?_concat
    (events : List Event)
    (event : Event) :
    captured? (events ++ [event]) = event.armed?.getD (captured? events) := by
  rw [captured?, List.filterMap_append]
  cases armed : event.armed? with
  | none =>
      simp [armed, captured?]
  | some later =>
      simp [armed]

/-- A reset forgets the first click. -/
theorem firstClick?_concat_of_isReset
    {event : Event}
    (isReset : event.isReset = true)
    (events : List Event) :
    firstClick? (events ++ [event]) = none := by
  rw [firstClick?, List.rtakeWhile_concat_neg _ _ _ (by simp [isReset])]
  rfl

/-- An event that resets nothing only adds a first click where there was none. -/
theorem firstClick?_concat
    {event : Event}
    (noReset : event.isReset = false)
    (events : List Event) :
    firstClick? (events ++ [event]) =
      (firstClick? events).or (event.clicked?.map (events.length, ·)) := by
  have shorter := (List.rtakeWhile_suffix (fun event : Event => !event.isReset) events).length_le
  rw [firstClick?, List.rtakeWhile_concat_pos _ _ _ (by simp [noReset])]
  simp only [List.length_append, List.length_singleton, Nat.add_sub_add_right, List.zipIdx_append,
    List.findSome?_append, List.zipIdx_singleton, List.findSome?_singleton, Nat.sub_add_cancel shorter]
  rfl

theorem Event.clicked?_eq_some_iff
    {event : Event}
    {pointId : Int} :
    event.clicked? = some pointId ↔ event = clicked pointId := by
  cases event <;> simp [clicked?]

/-- A reset lies in front of an event that is none. -/
theorem getElem?_of_isReset
    {events : List Event}
    {last : Event}
    (noReset : last.isReset = false)
    {place : Nat}
    {event : Event}
    (isThere : (events ++ [last])[place]? = some event)
    (isReset : event.isReset = true) :
    place < events.length ∧ events[place]? = some event := by
  by_cases old : place < events.length
  · rw [List.getElem?_append_left old] at isThere
    exact ⟨old, isThere⟩
  · rw [List.getElem?_append_right (Nat.le_of_not_lt old)] at isThere
    rw [List.mem_singleton.mp (List.mem_of_getElem? isThere), noReset] at isReset
    exact absurd isReset Bool.false_ne_true

/-- The first click is where it is said to be, and it lies behind every reset. -/
theorem firstClick?_spec
    {events : List Event}
    {place : Nat}
    {start : Int}
    (found : firstClick? events = some (place, start)) :
    events[place]? = some (.clicked start) ∧
      ∀ resetPlace event,
        events[resetPlace]? = some event → event.isReset = true → resetPlace < place := by
  induction events using List.reverseRecOn with
  | nil =>
      exact absurd found (by simp [firstClick?])
  | append_singleton events last inductionHypothesis =>
      cases noReset : last.isReset with
      | true =>
          rw [firstClick?_concat_of_isReset noReset] at found
          exact absurd found (by simp)
      | false =>
          rw [firstClick?_concat noReset, Option.or_eq_some_iff] at found
          rcases found with earlier | ⟨-, new⟩
          · obtain ⟨isThere, behind⟩ := inductionHypothesis earlier
            have old : place < events.length := (List.getElem?_eq_some_iff.mp isThere).1
            refine ⟨(List.getElem?_append_left old).trans isThere, ?_⟩
            intro resetPlace event resetThere isReset
            exact behind resetPlace event (getElem?_of_isReset noReset resetThere isReset).2 isReset
          · obtain ⟨pointId, isClick, same⟩ := Option.map_eq_some_iff.mp new
            obtain ⟨rfl, rfl⟩ := Prod.mk.inj same
            obtain rfl := Event.clicked?_eq_some_iff.mp isClick
            refine ⟨List.getElem?_concat_length, ?_⟩
            intro resetPlace event resetThere isReset
            exact (getElem?_of_isReset noReset resetThere isReset).1

/-!
## One action
-/

/-- A material is active exactly if its written color and its thickness are armed. -/
theorem isActive_iff
    {mode : BuildMode}
    {material : Material} :
    mode.isActive material = true ↔
      ∃ thickness,
        mode.armed? = some (material.color, thickness) ∧
          thickness.agrees material.thickness = true := by
  unfold isActive
  cases mode.armed? with
  | none =>
      simp
  | some kind =>
      obtain ⟨color, thickness⟩ := kind
      grind

/-- A duplicate is refused; any other material is armed, or disarmed if it is the armed one. -/
theorem toggle_cases
    (mode : BuildMode)
    (catalog : Catalog)
    (material : Material) :
    (catalog.isDuplicate material = true ∧
        mode.toggle catalog material = .error ⟨material.name⟩) ∨
      (catalog.isDuplicate material = false ∧
        ((mode.isActive material = true ∧ mode.toggle catalog material = .ok {}) ∨
          (mode.isActive material = false ∧
            mode.toggle catalog material =
              .ok { armed? := some (material.color, material.thickness) }))) := by
  unfold toggle
  cases catalog.isDuplicate material <;> cases mode.isActive material <;> simp

/--
A click connects exactly if something is armed and a click on another point is noted; then nothing is
noted any more.
-/
theorem click_connects_iff
    {mode later : BuildMode}
    {target : Int}
    {command : Command} :
    mode.click target = (later, some command) ↔
      ∃ color thickness start,
        mode = { armed? := some (color, thickness), pending? := some start } ∧
          start ≠ target ∧
          command = .connect (pointRef start) (pointRef target) color thickness ∧
          later = { armed? := some (color, thickness) } := by
  rcases mode with ⟨_ | ⟨color, thickness⟩, _ | start⟩
  · simp [click]
  · simp [click]
  · simp [click]
  · by_cases same : start = target
    · simp only [click, if_pos same]
      grind
    · simp only [click, if_neg same, cancel]
      grind

/-- A click that does not connect is noted if something is armed and no click is noted yet. -/
theorem click_notes
    {mode later : BuildMode}
    {pointId : Int}
    (clicked : mode.click pointId = (later, none)) :
    later.armed? = mode.armed? ∧
      later.pending? = mode.pending?.or (mode.armed?.map fun _ => pointId) := by
  rcases mode with ⟨_ | ⟨color, thickness⟩, _ | start⟩
  all_goals
    simp only [click] at clicked
    grind

/-- A reset that forgets the pending click keeps the view. -/
theorem IsViewOf.reset
    {mode later : BuildMode}
    {events : List Event}
    (isView : mode.IsViewOf events)
    {event : Event}
    (isReset : event.isReset = true)
    (armed : later.armed? = event.armed?.getD mode.armed?)
    (noted : later.pending? = none) :
    later.IsViewOf (events ++ [event]) where
  armed := by
    rw [captured?_concat, armed, isView.armed]
  pending := by
    rw [firstClick?_concat_of_isReset isReset, noted]
    cases later.armed? <;> rfl

/-- Each action keeps the mode a view of what happened. -/
theorem IsViewOf.act
    {mode : BuildMode}
    {events : List Event}
    (isView : mode.IsViewOf events)
    (action : Action) :
    (mode.act action).1.IsViewOf (events ++ [(mode.act action).2]) := by
  cases action with
  | toggle catalog material =>
      rcases mode.toggle_cases catalog material with
        ⟨-, refused⟩ | ⟨-, ⟨-, disarmed⟩ | ⟨-, armed⟩⟩
      · simp only [BuildMode.act, refused]
        constructor
        · rw [captured?_concat]
          exact isView.armed
        · rw [firstClick?_concat rfl, isView.pending]
          simp [Event.clicked?]
      · simp only [BuildMode.act, disarmed]
        exact isView.reset rfl rfl rfl
      · simp only [BuildMode.act, armed]
        exact isView.reset rfl rfl rfl
  | disarm =>
      exact isView.reset rfl rfl rfl
  | cancel =>
      exact isView.reset rfl rfl rfl
  | click pointId =>
      rcases clicked : mode.click pointId with ⟨later, command?⟩
      cases command? with
      | some command =>
          obtain ⟨color, thickness, start, rfl, -, -, rfl⟩ := click_connects_iff.mp clicked
          simp only [BuildMode.act, clicked]
          exact isView.reset rfl rfl rfl
      | none =>
          obtain ⟨armed, pending⟩ := click_notes clicked
          simp only [BuildMode.act, clicked]
          constructor
          · rw [captured?_concat]
            exact armed.trans isView.armed
          · rw [pending, armed, isView.pending, firstClick?_concat rfl]
            cases mode.armed? <;> cases firstClick? events <;> rfl

/-- A connection leads from the click that is noted, and nothing is noted after it. -/
theorem act_connected
    {mode : BuildMode}
    {action : Action}
    {target : Int}
    {command : Command}
    (connects : (mode.act action).2 = .connected target command) :
    ∃ color thickness start,
      mode = { armed? := some (color, thickness), pending? := some start } ∧
        start ≠ target ∧
        command = .connect (pointRef start) (pointRef target) color thickness ∧
        (mode.act action).1 = { armed? := some (color, thickness) } := by
  cases action with
  | toggle catalog material =>
      simp only [act] at connects
      split at connects <;> exact absurd connects (by simp)
  | disarm | cancel =>
      exact absurd connects (by simp [act])
  | click pointId =>
      rcases clicked : mode.click pointId with ⟨later, command?⟩
      simp only [act, clicked] at connects ⊢
      cases command? with
      | none =>
          exact absurd connects (by simp)
      | some sent =>
          obtain ⟨rfl, rfl⟩ := Event.connected.inj connects
          exact click_connects_iff.mp clicked

/-- Only duplicates are refused, and a refusal changes nothing. -/
theorem act_refused
    {mode : BuildMode}
    {action : Action}
    {error : DuplicateError}
    (refused : (mode.act action).2 = .refused error) :
    (∃ catalog material,
      action = .toggle catalog material ∧
        catalog.isDuplicate material = true ∧ error = ⟨material.name⟩) ∧
      (mode.act action).1 = mode := by
  cases action with
  | toggle catalog material =>
      rcases mode.toggle_cases catalog material with
        ⟨isDuplicate, toggled⟩ | ⟨-, ⟨-, toggled⟩ | ⟨-, toggled⟩⟩
      · simp only [act, toggled] at refused ⊢
        exact ⟨⟨catalog, material, rfl, isDuplicate, (Event.refused.inj refused).symm⟩, trivial⟩
      · exact absurd refused (by simp [act, toggled])
      · exact absurd refused (by simp [act, toggled])
  | disarm | cancel =>
      exact absurd refused (by simp [act])
  | click pointId =>
      simp only [act] at refused
      split at refused <;> exact absurd refused (by simp)

/-- An action leaves what is armed, disarms it, or arms the material that it toggles. -/
theorem act_armed?
    (mode : BuildMode)
    (action : Action) :
    (mode.act action).1.armed? = mode.armed? ∨
      (mode.act action).1.armed? = none ∨
      ∃ catalog material,
        action = .toggle catalog material ∧
          (mode.act action).1.armed? = some (material.color, material.thickness) := by
  cases action with
  | toggle catalog material =>
      rcases mode.toggle_cases catalog material with
        ⟨-, toggled⟩ | ⟨-, ⟨-, toggled⟩ | ⟨-, toggled⟩⟩
      · simp [act, toggled]
      · simp [act, toggled]
      · simp [act, toggled]
  | disarm =>
      exact Or.inr (Or.inl rfl)
  | cancel =>
      exact Or.inl rfl
  | click pointId =>
      rcases clicked : mode.click pointId with ⟨later, command?⟩
      simp only [act, clicked]
      cases command? with
      | none =>
          exact Or.inl (click_notes clicked).1
      | some command =>
          obtain ⟨color, thickness, start, rfl, -, -, rfl⟩ :=
            click_connects_iff.mp clicked
          exact Or.inl rfl

/-!
## Any number of actions
-/

/-- Any actions keep the mode a view of what happened. -/
theorem IsViewOf.play
    {mode : BuildMode}
    {earlier : List Event}
    (isView : mode.IsViewOf earlier)
    (actions : List Action) :
    (mode.play actions).1.IsViewOf (earlier ++ (mode.play actions).2) := by
  induction actions generalizing mode earlier with
  | nil =>
      rw [BuildMode.play, List.append_nil]
      exact isView
  | cons action rest inductionHypothesis =>
      rw [BuildMode.play, List.append_cons]
      exact inductionHypothesis (isView.act action)

/-- The mode is a view of what happened from the start. -/
theorem isViewOf_play (actions : List Action) :
    (play {} actions).1.IsViewOf (play {} actions).2 := by
  have atStart : ({} : BuildMode).IsViewOf [] := ⟨rfl, rfl⟩
  exact atStart.play actions

/-- What came of one of the actions is what comes of it after those before it. -/
theorem play_getElem?
    {mode : BuildMode}
    {actions : List Action}
    {place : Nat}
    {event : Event}
    (isThere : (mode.play actions).2[place]? = some event) :
    ∃ action,
      actions[place]? = some action ∧
        (mode.play (actions.take place)).2 = (mode.play actions).2.take place ∧
        ((mode.play (actions.take place)).1.act action).2 = event ∧
        (mode.play (actions.take (place + 1))).1 =
          ((mode.play (actions.take place)).1.act action).1 := by
  induction actions generalizing mode place with
  | nil =>
      exact absurd isThere (by simp [play])
  | cons action rest inductionHypothesis =>
      cases place with
      | zero =>
          exact ⟨action, rfl, rfl, Option.some.inj isThere, rfl⟩
      | succ place =>
          obtain ⟨found, given, events, came, later⟩ := inductionHypothesis isThere
          exact ⟨found, given, congrArg _ events, came, later⟩

/-- The mode before the action at a place. -/
def modeAt (actions : List Action) (place : Nat) : BuildMode :=
  (play {} (actions.take place)).1

/--
A connection leads from the first click since the last reset to another point, it has the color and the
thickness of the material as it was armed, and after it these are still armed and no click is noted.
-/
structure IsConnection
    (actions : List Action)
    (place : Nat)
    (target : Int)
    (command : Command)
    (source : Nat × Int)
    (kind : String × Num) : Prop where
  first : firstClick? ((play {} actions).2.take place) = some source
  clicked : (play {} actions).2[source.1]? = some (.clicked source.2)
  earlier : source.1 < place
  captured : captured? ((play {} actions).2.take place) = some kind
  different : source.2 ≠ target
  command : command = .connect (pointRef source.2) (pointRef target) kind.1 kind.2
  staysArmed : modeAt actions (place + 1) = { armed? := some kind, pending? := none }

/-- A Connect comes from two clicks on different points that nothing came between. -/
theorem isConnection_play
    {actions : List Action}
    {place : Nat}
    {target : Int}
    {command : Command}
    (connects : (play {} actions).2[place]? = some (.connected target command)) :
    ∃ source kind, IsConnection actions place target command source kind := by
  obtain ⟨action, -, events, came, later⟩ := play_getElem? connects
  obtain ⟨armed, pending⟩ := isViewOf_play (actions.take place)
  obtain ⟨color, thickness, start, mode, different, isCommand, after⟩ := act_connected came
  rw [mode, events] at armed pending
  obtain ⟨⟨startPlace, _⟩, first, rfl⟩ := Option.map_eq_some_iff.mp pending.symm
  obtain ⟨clicked, -⟩ := firstClick?_spec first
  have earlier : startPlace < place := by
    obtain ⟨bound, -⟩ := List.getElem?_eq_some_iff.mp clicked
    rw [List.length_take] at bound
    exact Nat.lt_of_lt_of_le bound (Nat.min_le_left ..)
  rw [List.getElem?_take_of_lt earlier] at clicked
  exact ⟨_, _, first, clicked, earlier, armed.symm, different, isCommand, later.trans after⟩

/-- What is kept to in build mode, whatever is done in it. -/
structure FollowsProtocol (actions : List Action) : Prop where
  view : (play {} actions).1.IsViewOf (play {} actions).2
  /-- A click is noted only while something is armed. -/
  notes : (play {} actions).1.pending?.isSome = true → (play {} actions).1.isArmed = true
  connects :
    ∀ place target command,
      (play {} actions).2[place]? = some (.connected target command) →
        ∃ source kind, IsConnection actions place target command source kind
  /-- A connection starts behind every connection before it, so that no click serves two. -/
  apart :
    ∀ first second : Nat,
      first < second →
        ∀ target command,
          (play {} actions).2[first]? = some (.connected target command) →
            ∀ source,
              firstClick? ((play {} actions).2.take second) = some source → first < source.1
  /-- Only duplicates are refused, and a refusal changes nothing. -/
  refuses :
    ∀ place error,
      (play {} actions).2[place]? = some (.refused error) →
        (∃ catalog material,
          actions[place]? = some (.toggle catalog material) ∧
            catalog.isDuplicate material = true ∧ error = ⟨material.name⟩) ∧
          modeAt actions (place + 1) = modeAt actions place

/-- Whatever is done, the events follow the protocol. -/
theorem followsProtocol (actions : List Action) :
    FollowsProtocol actions where
  view := isViewOf_play actions
  notes := by
    intro noted
    rw [(isViewOf_play actions).pending] at noted
    exact Option.isSome_of_isSome_bind noted
  connects := by
    intro place target command
    exact isConnection_play
  apart := by
    intro first second before target command connects source found
    obtain ⟨-, behind⟩ := firstClick?_spec found
    have isThere := (List.getElem?_take_of_lt before).trans connects
    exact behind first _ isThere rfl
  refuses := by
    intro place error refused
    obtain ⟨action, given, -, came, later⟩ := play_getElem? refused
    obtain ⟨⟨catalog, material, rfl, isDuplicate, named⟩, same⟩ := act_refused came
    exact ⟨⟨catalog, material, given, isDuplicate, named⟩, later.trans same⟩

end SceneEditor.BuildMode
