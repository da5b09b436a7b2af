import SceneEditor.Timeline.PointerHub

namespace SceneEditor.PointerHub

/-!
# Released gestures

What happens to a hub is that gestures are made, started and released, in any order; a gesture may
also be started again.  Whatever the owners do, the release of the pointer releases every gesture
that hears of it.  But an owner who fails keeps it from the gestures behind, and these go on.
-/

/-- One hub becomes another by making, starting and releasing gestures. -/
inductive Leads (hub : PointerHub β) : PointerHub β → Prop where
  | refl : Leads hub hub
  | make {later : PointerHub β}
      (leads : Leads hub later)
      (gesture : Gesture β) :
      Leads hub (later.make gesture)
  | start {later : PointerHub β} {place : Nat}
      (leads : Leads hub later)
      (made : place < later.gestures.length) :
      Leads hub (later.start place)
  | release {later : PointerHub β}
      (leads : Leads hub later)
      (place : Nat) :
      Leads hub (later.release place)

theorem Leads.trans
    {first second third : PointerHub β}
    (leads : Leads first second)
    (further : Leads second third) :
    Leads first third := by
  induction further with
  | refl =>
      exact leads
  | make _ gesture inductionHypothesis =>
      exact inductionHypothesis.make gesture
  | start _ made inductionHypothesis =>
      exact inductionHypothesis.start made
  | release _ place inductionHypothesis =>
      exact inductionHypothesis.release place

/-- The hub has come about from one without gestures. -/
def Reachable (hub : PointerHub β) : Prop :=
  Leads {} hub

/-- There is a gesture at the place, and it listens. -/
def IsActive (hub : PointerHub β) (place : Nat) : Prop :=
  ∃ gesture, hub.gestures[place]? = some gesture ∧ gesture.active = true

/-- No gesture is active, and none listens. -/
structure IsIdle (hub : PointerHub β) : Prop where
  inactive : ∀ gesture ∈ hub.gestures, gesture.active = false
  silent : hub.listenerCount = 0

/-!
## Gestures and listeners
-/

@[simp] theorem length_mark
    (hub : PointerHub β)
    (place : Nat)
    (active : Bool) :
    (hub.mark place active).gestures.length = hub.gestures.length :=
  List.length_modify ..

theorem isActive_make
    {hub : PointerHub β}
    {gesture : Gesture β}
    {place : Nat}
    (active : (hub.make gesture).IsActive place) :
    hub.IsActive place := by
  obtain ⟨found, isFound, isActive⟩ := active
  have added : (hub.gestures ++ [{ gesture with active := false }])[place]? = some found := isFound
  by_cases old : place < hub.gestures.length
  · rw [List.getElem?_append_left old] at added
    exact ⟨found, added, isActive⟩
  · rw [List.getElem?_append_right (Nat.le_of_not_lt old)] at added
    rw [List.mem_singleton.mp (List.mem_of_getElem? added)] at isActive
    exact absurd isActive Bool.false_ne_true

/-- Marking a gesture tells of that gesture, and leaves the others as they were. -/
theorem isActive_mark
    {hub : PointerHub β}
    {place other : Nat}
    {active : Bool}
    (isActive : (hub.mark place active).IsActive other) :
    (other = place ∧ active = true) ∨ (other ≠ place ∧ hub.IsActive other) := by
  obtain ⟨found, isFound, isActive⟩ := isActive
  rw [mark, List.getElem?_modify] at isFound
  by_cases same : place = other
  · obtain ⟨gesture, -, marked⟩ := Option.map_eq_some_iff.mp isFound
    rw [if_pos same] at marked
    rw [← marked] at isActive
    exact Or.inl ⟨same.symm, isActive⟩
  · simp only [if_neg same, id_map'] at isFound
    exact Or.inr ⟨Ne.symm same, found, isFound, isActive⟩

/-- A gesture listens to both events or to none, and an active one does listen. -/
structure IsPaired (hub : PointerHub β) : Prop where
  same : hub.moveListeners = hub.upListeners
  made : ∀ place ∈ hub.upListeners, place < hub.gestures.length
  heard : ∀ place, hub.IsActive place → place ∈ hub.upListeners

theorem IsPaired.make
    {hub : PointerHub β}
    (paired : hub.IsPaired)
    (gesture : Gesture β) :
    (hub.make gesture).IsPaired where
  same := paired.same
  made := by
    intro place listens
    have small := paired.made place listens
    simp only [PointerHub.make, List.length_append, List.length_singleton]
    omega
  heard := by
    intro place active
    exact paired.heard place (isActive_make active)

theorem IsPaired.start
    {hub : PointerHub β}
    (paired : hub.IsPaired)
    {place : Nat}
    (made : place < hub.gestures.length) :
    (hub.start place).IsPaired where
  same := congrArg (· ++ [place]) paired.same
  made := by
    intro other listens
    change other < (hub.mark place true).gestures.length
    rw [length_mark]
    rcases List.mem_append.mp listens with old | new
    · exact paired.made other old
    · rw [List.mem_singleton.mp new]
      exact made
  heard := by
    intro other active
    rcases isActive_mark active with ⟨rfl, -⟩ | ⟨-, active⟩
    · exact List.mem_append_right _ (List.mem_singleton_self other)
    · exact List.mem_append_left _ (paired.heard other active)

theorem IsPaired.release
    {hub : PointerHub β}
    (paired : hub.IsPaired)
    (place : Nat) :
    (hub.release place).IsPaired where
  same := congrArg (List.erase · place) paired.same
  made := by
    intro other listens
    change other < (hub.mark place false).gestures.length
    rw [length_mark]
    exact paired.made other (List.mem_of_mem_erase listens)
  heard := by
    intro other active
    rcases isActive_mark active with ⟨-, never⟩ | ⟨different, active⟩
    · exact absurd never Bool.false_ne_true
    · exact (List.mem_erase_of_ne different).mpr (paired.heard other active)

/-- Whatever a hub leads to stays paired. -/
theorem Leads.isPaired
    {hub later : PointerHub β}
    (leads : Leads hub later)
    (paired : hub.IsPaired) :
    later.IsPaired := by
  induction leads with
  | refl =>
      exact paired
  | make _ gesture inductionHypothesis =>
      exact inductionHypothesis.make gesture
  | start _ made inductionHypothesis =>
      exact inductionHypothesis.start made
  | release _ place inductionHypothesis =>
      exact inductionHypothesis.release place

/-- Every hub that can be reached is paired. -/
theorem Reachable.isPaired
    {hub : PointerHub β}
    (reachable : hub.Reachable) :
    hub.IsPaired := by
  apply Leads.isPaired reachable
  constructor
  · rfl
  · simp
  · simp [IsActive]

/-- A hub without listeners is idle. -/
theorem IsPaired.isIdle_iff
    {hub : PointerHub β}
    (paired : hub.IsPaired) :
    hub.IsIdle ↔ hub.upListeners = [] := by
  constructor
  · intro idle
    have silent := idle.silent
    simp only [listenerCount] at silent
    exact List.eq_nil_of_length_eq_zero (by omega)
  · intro silent
    constructor
    · intro gesture member
      obtain ⟨place, found⟩ := List.mem_iff_getElem?.mp member
      cases active : gesture.active with
      | false =>
          rfl
      | true =>
          have listens := paired.heard place ⟨gesture, found, active⟩
          rw [silent] at listens
          exact absurd listens List.not_mem_nil
    · rw [listenerCount, paired.same, silent]
      rfl

/-!
## Events
-/

/-- The listeners that an event does not reach, because one in front of them fails. -/
def unreached (call : Nat → σ → σ × Option ε) : List Nat → σ → List Nat
  | [], _ => []
  | place :: rest, state =>
      match call place state with
      | (_, some _) => rest
      | (state, none) => unreached call rest state

/-- Every call is reached if none fails. -/
theorem unreached_of_succeeds
    {call : Nat → σ → σ × Option ε}
    {places : List Nat}
    {state : σ}
    (succeeds : (deliver call places state).2 = none) :
    unreached call places state = [] := by
  induction places generalizing state with
  | nil =>
      rfl
  | cons place rest inductionHypothesis =>
      rw [deliver] at succeeds
      rw [unreached]
      rcases called : call place state with ⟨later, failure?⟩
      rw [called] at succeeds
      cases failure? with
      | some failure =>
          exact absurd succeeds (by simp)
      | none =>
          exact inductionHypothesis succeeds

/-- A delivery of calls that succeed succeeds. -/
theorem deliver_succeeds
    {call : Nat → σ → σ × Option ε}
    {places : List Nat}
    (succeeds : ∀ place ∈ places, ∀ state, (call place state).2 = none)
    (state : σ) :
    (deliver call places state).2 = none := by
  induction places generalizing state with
  | nil =>
      rfl
  | cons place rest inductionHypothesis =>
      have first := succeeds place List.mem_cons_self state
      rw [deliver]
      rcases called : call place state with ⟨later, failure?⟩
      obtain rfl : failure? = none := by
        rw [called] at first
        exact first
      exact inductionHypothesis (fun other member => succeeds other (List.mem_cons_of_mem _ member)) later

/-- What holds of the listeners to come and the state, as long as it is kept by every call. -/
theorem deliver_keeps
    {call : Nat → σ → σ × Option ε}
    {invariant : List Nat → σ → Prop}
    (kept :
      ∀ place waiting state,
        invariant (place :: waiting) state → invariant waiting (call place state).1)
    {places : List Nat}
    {state : σ}
    (holds : invariant places state) :
    invariant (unreached call places state) (deliver call places state).1 := by
  induction places generalizing state with
  | nil =>
      exact holds
  | cons place rest inductionHypothesis =>
      have next := kept place rest state holds
      rw [deliver, unreached]
      rcases called : call place state with ⟨later, failure?⟩
      rw [called] at next
      cases failure? with
      | some failure =>
          exact next
      | none =>
          exact inductionHypothesis next

/-!
## The release of the pointer
-/

/--
The owners use the hub only by its operations, and they let no gesture listen that is not among
those which may be started.
-/
structure ActsThrough
    (hub : PointerHub β)
    (ended : Gesture β → PointerHub β × σ → (PointerHub β × σ) × Option ε)
    (startable : Nat → Prop) : Prop where
  operates :
    ∀ gesture current state, Leads current (ended gesture (current, state)).1.1
  starts :
    ∀ gesture current state,
      Leads hub current →
        ∀ place,
          ¬ startable place →
            (ended gesture (current, state)).1.1.upListeners.count place ≤
              current.upListeners.count place

/-- A gesture that ends is released behind its own callback. -/
theorem finish_hub
    (ended : Gesture β → PointerHub β × σ → (PointerHub β × σ) × Option ε)
    (place : Nat)
    (current : PointerHub β × σ) :
    (finish ended place current).1.1 = (current.1.tell ended place current).1.1.release place :=
  rfl

/-- Whoever is told of an event acts on what is there, or no one is told. -/
theorem tell_cases
    (hub : PointerHub β)
    (told : Gesture β → σ → σ × Option ε)
    (place : Nat)
    (state : σ) :
    hub.tell told place state = (state, none) ∨
      ∃ gesture, hub.tell told place state = told gesture state := by
  unfold tell
  split
  · next gesture found =>
    exact Or.inr ⟨gesture, rfl⟩
  · exact Or.inl rfl

/-- An owner that acts through the hub leads on from it. -/
theorem ActsThrough.leads_tell
    {hub current : PointerHub β}
    {ended : Gesture β → PointerHub β × σ → (PointerHub β × σ) × Option ε}
    {startable : Nat → Prop}
    (acts : ActsThrough hub ended startable)
    (place : Nat)
    (state : σ) :
    Leads current (current.tell ended place (current, state)).1.1 := by
  rcases current.tell_cases ended place (current, state) with same | ⟨gesture, told⟩
  · rw [same]
    exact Leads.refl
  · rw [told]
    exact acts.operates gesture current state

theorem ActsThrough.count_tell
    {hub current : PointerHub β}
    {ended : Gesture β → PointerHub β × σ → (PointerHub β × σ) × Option ε}
    {startable : Nat → Prop}
    (acts : ActsThrough hub ended startable)
    (leads : Leads hub current)
    (told : Nat)
    (state : σ)
    {place : Nat}
    (notStarted : ¬ startable place) :
    (current.tell ended told (current, state)).1.1.upListeners.count place ≤
      current.upListeners.count place := by
  rcases current.tell_cases ended told (current, state) with same | ⟨gesture, told⟩
  · simp [same]
  · rw [told]
    exact acts.starts gesture current state leads place notStarted

/-- A gesture has no more listeners left than there are calls of it to come. -/
theorem ActsThrough.count_pointerUpWith
    {hub : PointerHub β}
    {ended : Gesture β → PointerHub β × σ → (PointerHub β × σ) × Option ε}
    {startable : Nat → Prop}
    (acts : ActsThrough hub ended startable)
    (state : σ) :
    Leads hub (hub.pointerUpWith ended state).1.1 ∧
      ∀ place,
        ¬ startable place →
          (hub.pointerUpWith ended state).1.1.upListeners.count place ≤
            (unreached (finish ended) hub.upListeners (hub, state)).count place := by
  let invariant (waiting : List Nat) (current : PointerHub β × σ) : Prop :=
    Leads hub current.1 ∧
      ∀ place, ¬ startable place → current.1.upListeners.count place ≤ waiting.count place
  have kept
      (place : Nat)
      (waiting : List Nat)
      (current : PointerHub β × σ)
      (holds : invariant (place :: waiting) current) :
      invariant waiting (finish ended place current).1 := by
    obtain ⟨leads, counts⟩ := holds
    constructor
    · rw [finish_hub]
      exact (leads.trans (acts.leads_tell place current.2)).release place
    · intro other notStarted
      have told := acts.count_tell leads place current.2 notStarted
      have before := counts other notStarted
      rw [finish_hub]
      change List.count other (List.erase _ place) ≤ _
      rw [List.count_cons] at before
      rw [List.count_erase]
      exact Nat.sub_le_of_le_add (Nat.le_trans told before)
  have start : invariant hub.upListeners (hub, state) :=
    ⟨Leads.refl, fun _ _ => Nat.le_refl _⟩
  exact deliver_keeps kept start

/-- Owners who leave the hub alone leave the listeners to it that were not reached. -/
theorem upListeners_pointerUpWith
    {hub : PointerHub β}
    {ended : Gesture β → PointerHub β × σ → (PointerHub β × σ) × Option ε}
    (alone : ∀ gesture current, (ended gesture current).1.1 = current.1)
    (state : σ) :
    (hub.pointerUpWith ended state).1.1.upListeners =
      unreached (finish ended) hub.upListeners (hub, state) := by
  let invariant (waiting : List Nat) (current : PointerHub β × σ) : Prop :=
    current.1.upListeners = waiting
  have kept
      (place : Nat)
      (waiting : List Nat)
      (current : PointerHub β × σ)
      (holds : current.1.upListeners = place :: waiting) :
      invariant waiting (finish ended place current).1 := by
    have told : (current.1.tell ended place current).1.1 = current.1 := by
      rcases current.1.tell_cases ended place current with same | ⟨gesture, told⟩
      · rw [same]
      · rw [told]
        exact alone gesture current
    change (finish ended place current).1.1.upListeners = waiting
    rw [finish_hub, told]
    change List.erase current.1.upListeners place = waiting
    rw [holds, List.erase_cons_head]
  have start : invariant hub.upListeners (hub, state) :=
    rfl
  exact deliver_keeps kept start

/--
Whatever the owners do at the release of the pointer: the gestures that still listen after it are
those that were not reached, because an owner in front of them failed, and those that the owners
started anew.  If no owner fails and none starts a gesture, then no gesture is active and none
listens.  If the owners leave the hub alone, then exactly the gestures that were not reached go on.
-/
theorem pointerUpWith_releases
    {hub : PointerHub β}
    (reachable : hub.Reachable)
    {ended : Gesture β → PointerHub β × σ → (PointerHub β × σ) × Option ε}
    {startable : Nat → Prop}
    (acts : ActsThrough hub ended startable)
    (state : σ) :
    let outcome := hub.pointerUpWith ended state
    let waiting := unreached (finish ended) hub.upListeners (hub, state)
    outcome.1.1.IsPaired ∧
      (outcome.2 = none → waiting = []) ∧
      (∀ place ∈ outcome.1.1.upListeners, startable place ∨ place ∈ waiting) ∧
      ((∀ place, ¬ startable place) → waiting = [] → outcome.1.1.IsIdle) ∧
      ((∀ gesture current, (ended gesture current).1.1 = current.1) →
        outcome.1.1.upListeners = waiting ∧ (outcome.1.1.IsIdle ↔ waiting = [])) := by
  intro outcome waiting
  obtain ⟨leads, counts⟩ := acts.count_pointerUpWith state
  have paired : outcome.1.1.IsPaired := leads.isPaired reachable.isPaired
  have left : ∀ place ∈ outcome.1.1.upListeners, startable place ∨ place ∈ waiting := by
    intro place listens
    by_cases started : startable place
    · exact Or.inl started
    · have remaining := Nat.lt_of_lt_of_le (List.count_pos_iff.mpr listens) (counts place started)
      exact Or.inr (List.count_pos_iff.mp remaining)
  refine ⟨paired, unreached_of_succeeds, left, ?_, ?_⟩
  · intro noneStarted allReached
    rw [paired.isIdle_iff, List.eq_nil_iff_forall_not_mem]
    intro place listens
    rcases left place listens with started | unreached
    · exact noneStarted place started
    · rw [allReached] at unreached
      exact absurd unreached List.not_mem_nil
  · intro alone
    have listeners : outcome.1.1.upListeners = waiting := upListeners_pointerUpWith alone state
    rw [paired.isIdle_iff, listeners]
    exact ⟨rfl, Iff.rfl⟩

/-- A gesture that was started twice ends the other one too, and is told of the release twice. -/
theorem pointerUpWith_releases_twice :
    let gesture (owner : String) : Gesture String :=
      { startX := .int 0, trackWidth := .int 600, maxTime := .int 60, owner }
    let made := (({} : PointerHub String).make (gesture "first")).make (gesture "second")
    let hub := ((made.start 0).start 1).start 0
    let ended (gesture : Gesture String) (current : PointerHub String × List String) :
        (PointerHub String × List String) × Option Unit :=
      ((current.1.release 1, current.2 ++ [gesture.owner]), none)
    hub.Reachable ∧
      ActsThrough hub ended (fun _ => False) ∧
      hub.listenerCount = 6 ∧
      (hub.pointerUpWith ended []).1.2 = ["first", "second", "first"] ∧
      (hub.pointerUpWith ended []).2 = none ∧
      (hub.pointerUpWith ended []).1.1.IsIdle := by
  intro gesture made hub ended
  have reachable : hub.Reachable :=
    ((((Leads.refl.make _).make _).start (by decide)).start (by decide)).start (by decide)
  have acts : ActsThrough hub ended (fun _ => False) := by
    constructor
    · intro gesture current told
      exact Leads.refl.release 1
    · intro gesture current told leads place notStarted
      exact (List.erase_sublist).count_le place
  have succeeds : (hub.pointerUpWith ended []).2 = none := by
    decide
  obtain ⟨-, reached, -, idle, -⟩ := pointerUpWith_releases reachable acts []
  exact ⟨reachable, acts, rfl, by decide, succeeds, idle (fun _ => not_false) (reached succeeds)⟩

/-- The owner of the first of two gestures fails, and the second gesture goes on. -/
theorem pointerUp_leaves_active :
    let gesture (owner : String) : Gesture String :=
      { startX := .int 0, trackWidth := .int 600, maxTime := .int 60, owner }
    let made := (({} : PointerHub String).make (gesture "first")).make (gesture "second")
    let hub := (made.start 0).start 1
    let ended (gesture : Gesture String) (told : List String) : List String × Option String :=
      (told ++ [gesture.owner], if gesture.owner = "first" then some "end failed" else none)
    let outcome := hub.pointerUp ended []
    hub.Reachable ∧
      outcome.2 = some "end failed" ∧
      outcome.1.1.listenerCount = 2 ∧
      outcome.1.1.IsActive 1 ∧
      ¬ outcome.1.1.IsIdle := by
  intro gesture made hub ended outcome
  have reachable : hub.Reachable :=
    (((Leads.refl.make _).make _).start (by decide)).start (by decide)
  have listening : outcome.1.1.listenerCount = 2 := by
    decide
  refine ⟨reachable, by decide, listening, ⟨{ gesture "second" with active := true }, rfl, rfl⟩, ?_⟩
  intro idle
  exact absurd (listening.symm.trans idle.silent) (by decide)

end SceneEditor.PointerHub
