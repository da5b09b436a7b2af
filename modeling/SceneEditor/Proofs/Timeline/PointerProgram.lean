import SceneEditor.Proofs.Timeline.Listening

namespace SceneEditor.PointerHub

/-!
# Programs that use the hub

A program makes, starts and releases gestures, and moves and releases the pointer; it may look at what is
there, and fail at any point.  The owners of gestures answer every event with such programs, so that
an event can come amid another one.  As long as no program starts a gesture that is active, every
gesture listens exactly while it is active, after each step of each of them, and an event tells only
those gestures that were active when it came.
-/

/-- What is done with the hub and with a state of one's own; a failure cuts it short. -/
inductive Program (β σ ε : Type) where
  | done
  | fail (failure : ε)
  | look (next : PointerHub β × σ → Program β σ ε)
  | set (state : σ)
  | make (gesture : Gesture β)
  | start (place : Nat)
  | release (place : Nat)
  | move (x : Num)
  | up
  | andThen (first second : Program β σ ε)
  /-- The program goes on after a failure of the body. -/
  | attempt (body : Program β σ ε)
  /-- A gesture is started for the body alone, and released however the body ends. -/
  | within (place : Nat) (body : Program β σ ε)

/-- What the owners of gestures do when they are told of a move or of the release of the pointer. -/
structure Owners (β σ ε : Type) where
  moved : Num → Gesture β → Program β σ ε
  ended : Gesture β → Program β σ ε

/-- What can happen at a hub, at the finest grain. -/
inductive Step (β : Type) where
  | make (gesture : Gesture β)
  | start (place : Nat)
  | release (place : Nat)
  /-- The owner of a gesture is told of an event; the hub is that to which the event came. -/
  | tell (place : Nat) (event : PointerHub β)
  deriving Repr

/-- One step, between two hubs. -/
structure Moment (β : Type) where
  step : Step β
  before : PointerHub β
  after : PointerHub β
  deriving Repr

/-- A gesture is started only if it is there and not active. -/
def Moment.IsOrderly (moment : Moment β) : Prop :=
  match moment.step with
  | .start place => place < moment.before.gestures.length ∧ ¬ moment.before.IsActive place
  | _ => True

instance : (moment : Moment β) → Decidable moment.IsOrderly
  | { step := .start place, before, .. } =>
      inferInstanceAs (Decidable (place < before.gestures.length ∧ ¬ before.IsActive place))
  | { step := .make _, .. } | { step := .release _, .. } | { step := .tell .., .. } =>
      isTrue trivial

/-- Whoever is told of an event was active when it came. -/
def Moment.TellsActive (moment : Moment β) : Prop :=
  match moment.step with
  | .tell place event => event.IsActive place
  | _ => True

/-- A gesture is active after it was started until it is released, and no other step changes who is. -/
def Moment.Activates (moment : Moment β) : Prop :=
  ∀ place,
    moment.after.IsActive place ↔
      match moment.step with
      | .start started => place = started ∨ moment.before.IsActive place
      | .release released => place ≠ released ∧ moment.before.IsActive place
      | .make _ | .tell .. => moment.before.IsActive place

/-- The moments lead from one hub to another, each from where the one before it ends. -/
def Linked (hub : PointerHub β) : List (Moment β) → PointerHub β → Prop
  | [], later => later = hub
  | moment :: rest, later => moment.before = hub ∧ Linked moment.after rest later

/-- What a program went through, and where it ended. -/
structure Passage (β σ ε : Type) where
  moments : List (Moment β) := []
  current : PointerHub β × σ
  failure? : Option ε := none
  deriving Repr

namespace Passage

/-- A passage of one step. -/
def single
    (step : Step β)
    (current : PointerHub β × σ)
    (hub : PointerHub β) :
    Passage β σ ε where
  moments := [{ step, before := current.1, after := hub }]
  current := (hub, current.2)

/-- What a passage leaves behind, and the failure that ended it. -/
def outcome (passage : Passage β σ ε) : (PointerHub β × σ) × Option ε :=
  (passage.current, passage.failure?)

/-- A passage, and what comes next unless a failure ended it. -/
def onward
    (passage : Passage β σ ε)
    (next : PointerHub β × σ → Passage β σ ε) :
    Passage β σ ε :=
  match passage.failure? with
  | some _ => passage
  | none =>
      let further := next passage.current
      { further with moments := passage.moments ++ further.moments }

/-- Release a gesture behind a passage, whether or not it failed. -/
def thenRelease (passage : Passage β σ ε) (place : Nat) : Passage β σ ε :=
  let hub := passage.current.1.release place
  let released : Passage β σ ε := single (.release place) passage.current hub
  { released with moments := passage.moments ++ released.moments, failure? := passage.failure? }

end Passage

/-- How the programs of owners are run. -/
abbrev Runner (β σ ε : Type) :=
  Program β σ ε → PointerHub β × σ → Passage β σ ε

/-- The moments of an event, in which one listener is called after another up to the first that fails. -/
def eventMoments
    (call : Nat → σ → σ × Option ε)
    (moments : Nat → σ → List (Moment β)) :
    List Nat → σ → List (Moment β)
  | [], _ => []
  | place :: rest, state =>
      moments place state ++
        match call place state with
        | (_, some _) => []
        | (state, none) => eventMoments call moments rest state

/-- The owner of a gesture is told of an event, and answers it. -/
def tellMoments
    (event hub : PointerHub β)
    (told : Gesture β → PointerHub β × σ → Passage β σ ε)
    (place : Nat)
    (current : PointerHub β × σ) :
    List (Moment β) :=
  let answer := (hub.gestures[place]?.map fun gesture => (told gesture current).moments).getD []
  { step := .tell place event, before := current.1, after := current.1 } :: answer

/-- The owner of a gesture is told of its end and answers, and after that the gesture is released. -/
def finishMoments
    (event : PointerHub β)
    (ended : Gesture β → PointerHub β × σ → Passage β σ ε)
    (place : Nat)
    (current : PointerHub β × σ) :
    List (Moment β) :=
  let later := (current.1.tell (fun gesture now => (ended gesture now).outcome) place current).1.1
  tellMoments event current.1 ended place current ++
    [{ step := .release place, before := later, after := later.release place }]

namespace Program

/-- Run a program, when it is known how the programs of owners are run. -/
def runWith
    (owners : Owners β σ ε)
    (answer : Runner β σ ε) :
    Runner β σ ε
  | done, current => { current }
  | fail failure, current => { current, failure? := some failure }
  | look next, current => (next current).runWith owners answer current
  | set state, current => { current := (current.1, state) }
  | make gesture, current => .single (.make gesture) current (current.1.make gesture)
  | start place, current => .single (.start place) current (current.1.start place)
  | release place, current => .single (.release place) current (current.1.release place)
  | move x, current =>
      let hub := current.1
      let told gesture := answer (owners.moved x gesture)
      let moved gesture now := (told gesture now).outcome
      let (later, failure?) := hub.pointerMove moved current
      let moments := eventMoments (hub.tell moved) (tellMoments hub hub told)
      { moments := moments hub.moveListeners current, current := later, failure? }
  | up, current =>
      let hub := current.1
      let told gesture := answer (owners.ended gesture)
      let ended gesture now := (told gesture now).outcome
      let (later, failure?) := hub.pointerUpWith ended current.2
      let moments := eventMoments (finish ended) (finishMoments hub told)
      { moments := moments hub.upListeners current, current := later, failure? }
  | andThen first second, current =>
      (first.runWith owners answer current).onward (second.runWith owners answer)
  | attempt body, current => { body.runWith owners answer current with failure? := none }
  | within place body, current =>
      let started := Passage.single (.start place) current (current.1.start place)
      (started.onward (body.runWith owners answer)).thenRelease place

/-- Run a program; events that are nested deeper than some depth fail. -/
def run (owners : Owners β σ ε) (tooDeep : ε) : Nat → Runner β σ ε
  | 0 => runWith owners fun _ current => { current, failure? := some tooDeep }
  | depth + 1 => runWith owners (run owners tooDeep depth)

end Program

/-!
## What every step keeps
-/

/-- Moments that go on from others are linked with them. -/
theorem Linked.append
    {first second third : PointerHub β}
    {moments further : List (Moment β)}
    (linked : Linked first moments second)
    (goesOn : Linked second further third) :
    Linked first (moments ++ further) third := by
  induction moments generalizing first with
  | nil =>
      obtain rfl : second = first := linked
      exact goesOn
  | cons moment rest inductionHypothesis =>
      obtain ⟨begins, linked⟩ := linked
      exact ⟨begins, inductionHypothesis linked⟩

/-- The hub behind a moment is matched, and the moment does and tells what it should. -/
structure Moment.IsKept (moment : Moment β) : Prop where
  after : moment.after.IsMatched
  activates : moment.Activates
  tells : moment.TellsActive

/-- Moments that lead from one hub to a matched one. -/
structure AreKept
    (hub : PointerHub β)
    (moments : List (Moment β))
    (later : PointerHub β) : Prop where
  each : ∀ moment ∈ moments, moment.IsKept
  linked : Linked hub moments later
  ends : later.IsMatched

/-- Moments that lead to a matched hub if no gesture is started that is active. -/
def Keep
    (hub : PointerHub β)
    (moments : List (Moment β))
    (later : PointerHub β) : Prop :=
  (∀ moment ∈ moments, moment.IsOrderly) → AreKept hub moments later

theorem Keep.nil
    {hub : PointerHub β}
    (isMatched : hub.IsMatched) :
    Keep hub [] hub := by
  intro _
  exact ⟨by simp, rfl, isMatched⟩

/-- A single moment is kept if it is so whenever it is orderly. -/
theorem Keep.one
    {moment : Moment β}
    (isKept : moment.IsOrderly → moment.IsKept) :
    Keep moment.before [moment] moment.after := by
  intro orderly
  have isKept := isKept (orderly moment List.mem_cons_self)
  exact ⟨List.forall_mem_singleton.mpr isKept, ⟨rfl, rfl⟩, isKept.after⟩

/-- What is kept over two runs of moments is kept over both together. -/
theorem Keep.append
    {first second third : PointerHub β}
    {moments further : List (Moment β)}
    (keep : Keep first moments second)
    (goesOn : second.IsMatched → Keep second further third) :
    Keep first (moments ++ further) third := by
  intro orderly
  obtain ⟨firstOrderly, nextOrderly⟩ := List.forall_mem_append.mp orderly
  have earlier := keep firstOrderly
  have later := goesOn earlier.ends nextOrderly
  exact ⟨List.forall_mem_append.mpr ⟨earlier.each, later.each⟩,
    earlier.linked.append later.linked, later.ends⟩

theorem keep_make
    {hub : PointerHub β}
    (isMatched : hub.IsMatched)
    (gesture : Gesture β) :
    Keep hub [⟨.make gesture, hub, hub.make gesture⟩] (hub.make gesture) := by
  apply Keep.one
  intro _
  exact ⟨isMatched.make gesture, fun _ => isActive_make_iff, trivial⟩

theorem keep_start
    {hub : PointerHub β}
    (isMatched : hub.IsMatched)
    (place : Nat) :
    Keep hub [⟨.start place, hub, hub.start place⟩] (hub.start place) := by
  apply Keep.one
  rintro ⟨made, idle⟩
  exact ⟨isMatched.start made idle, fun _ => isActive_start_iff made, trivial⟩

theorem keep_release
    {hub : PointerHub β}
    (isMatched : hub.IsMatched)
    (place : Nat) :
    Keep hub [⟨.release place, hub, hub.release place⟩] (hub.release place) := by
  apply Keep.one
  intro _
  exact ⟨isMatched.release place, fun _ => isActive_release_iff, trivial⟩

/-- Telling an owner keeps what a hub promises. -/
theorem keep_tell
    {hub event : PointerHub β}
    (isMatched : hub.IsMatched)
    {place : Nat}
    (active : event.IsActive place) :
    Keep hub [⟨.tell place event, hub, hub⟩] hub := by
  apply Keep.one
  intro _
  exact ⟨isMatched, fun _ => Iff.rfl, active⟩

/-- What is kept on a passage from a hub. -/
def Passage.Keeps (passage : Passage β σ ε) (hub : PointerHub β) : Prop :=
  Keep hub passage.moments passage.current.1

/-- Programs keep a hub matched. -/
def Runner.Keeps (run : Runner β σ ε) : Prop :=
  ∀ program current, current.1.IsMatched → (run program current).Keeps current.1

/-- A passage that goes on keeps what both its parts keep. -/
theorem Passage.Keeps.onward
    {hub : PointerHub β}
    {passage : Passage β σ ε}
    (keeps : passage.Keeps hub)
    {next : PointerHub β × σ → Passage β σ ε}
    (goesOn : ∀ current, current.1.IsMatched → (next current).Keeps current.1) :
    (passage.onward next).Keeps hub := by
  unfold Passage.onward
  split
  · exact keeps
  · exact keeps.append (goesOn passage.current)

theorem Passage.Keeps.thenRelease
    {hub : PointerHub β}
    {passage : Passage β σ ε}
    (keeps : passage.Keeps hub)
    (place : Nat) :
    (passage.thenRelease place).Keeps hub :=
  keeps.append fun isMatched => keep_release isMatched place

/-!
## Events
-/

/-- A call that keeps a hub matched. -/
def CallKeeps
    (call : Nat → PointerHub β × σ → (PointerHub β × σ) × Option ε)
    (moments : Nat → PointerHub β × σ → List (Moment β))
    (place : Nat) : Prop :=
  ∀ current,
    current.1.IsMatched → Keep current.1 (moments place current) (call place current).1.1

/-- A delivery keeps what each of its calls keeps. -/
theorem keep_deliver
    {call : Nat → PointerHub β × σ → (PointerHub β × σ) × Option ε}
    {moments : Nat → PointerHub β × σ → List (Moment β)}
    {places : List Nat}
    (keeps : ∀ place ∈ places, CallKeeps call moments place)
    {current : PointerHub β × σ}
    (isMatched : current.1.IsMatched) :
    Keep current.1 (eventMoments call moments places current)
      (deliver call places current).1.1 := by
  induction places generalizing current with
  | nil =>
      exact Keep.nil isMatched
  | cons place rest inductionHypothesis =>
      obtain ⟨headKeeps, restKeep⟩ := List.forall_mem_cons.mp keeps
      have headKept := headKeeps current isMatched
      rw [eventMoments, deliver]
      rcases called : call place current with ⟨later, failure?⟩
      rw [called] at headKept
      cases failure? with
      | some failure =>
          exact headKept.append Keep.nil
      | none =>
          exact headKept.append (inductionHypothesis restKeep)

/-- Telling the owner of an active gesture keeps what the owner keeps. -/
theorem callKeeps_tell
    {told : Gesture β → PointerHub β × σ → Passage β σ ε}
    (keeps : ∀ gesture current, current.1.IsMatched → (told gesture current).Keeps current.1)
    {event : PointerHub β}
    {place : Nat}
    (active : event.IsActive place)
    (hub : PointerHub β) :
    CallKeeps (hub.tell fun gesture now => (told gesture now).outcome)
      (tellMoments event hub told) place := by
  intro current isMatched
  unfold tell tellMoments
  cases hub.gestures[place]? with
  | none =>
      exact keep_tell isMatched active
  | some gesture =>
      exact (keep_tell isMatched active).append (keeps gesture current)

/-- Ending an active gesture keeps what the owner keeps. -/
theorem callKeeps_finish
    {ended : Gesture β → PointerHub β × σ → Passage β σ ε}
    (keeps : ∀ gesture current, current.1.IsMatched → (ended gesture current).Keeps current.1)
    {event : PointerHub β}
    {place : Nat}
    (active : event.IsActive place) :
    CallKeeps (finish fun gesture now => (ended gesture now).outcome)
      (finishMoments event ended) place := by
  intro current isMatched
  have told := callKeeps_tell keeps active current.1 current isMatched
  exact told.append fun isMatched => keep_release isMatched place

/-!
## Programs
-/

/-- Only active gestures listen to moves. -/
theorem IsMatched.moveActive
    {hub : PointerHub β}
    (isMatched : hub.IsMatched)
    {place : Nat}
    (listens : place ∈ hub.moveListeners) :
    hub.IsActive place :=
  (isMatched.listens place).mp (isMatched.same ▸ listens)

/-- A program keeps what its answers keep. -/
theorem Program.keeps_runWith
    (owners : Owners β σ ε)
    {answer : Runner β σ ε}
    (answers : answer.Keeps) :
    Runner.Keeps (runWith owners answer) := by
  intro program
  induction program with
  | done | fail | set =>
      intro current isMatched
      exact Keep.nil isMatched
  | look next inductionHypothesis =>
      intro current isMatched
      exact inductionHypothesis current current isMatched
  | make gesture =>
      intro current isMatched
      exact keep_make isMatched gesture
  | start place =>
      intro current isMatched
      exact keep_start isMatched place
  | release place =>
      intro current isMatched
      exact keep_release isMatched place
  | move x =>
      intro current isMatched
      have keeps place (listens : place ∈ current.1.moveListeners) :=
        callKeeps_tell (fun gesture => answers (owners.moved x gesture))
          (isMatched.moveActive listens) current.1
      exact keep_deliver keeps isMatched
  | up =>
      intro current isMatched
      have keeps place (listens : place ∈ current.1.upListeners) :=
        callKeeps_finish (fun gesture => answers (owners.ended gesture))
          ((isMatched.listens place).mp listens)
      exact keep_deliver keeps isMatched
  | andThen first second firstHypothesis secondHypothesis =>
      intro current isMatched
      exact (firstHypothesis current isMatched).onward secondHypothesis
  | attempt body inductionHypothesis =>
      intro current isMatched
      exact inductionHypothesis current isMatched
  | within place body inductionHypothesis =>
      intro current isMatched
      have started :
          (Passage.single (.start place) current (current.1.start place) :
            Passage β σ ε).Keeps current.1 :=
        keep_start isMatched place
      exact (started.onward inductionHypothesis).thenRelease place

/-- Every program keeps what a hub promises, however deep its owners go. -/
theorem Program.keeps_run
    (owners : Owners β σ ε)
    (tooDeep : ε)
    (depth : Nat) :
    Runner.Keeps (run owners tooDeep depth) := by
  induction depth with
  | zero =>
      apply keeps_runWith
      intro program current isMatched
      exact Keep.nil isMatched
  | succ depth inductionHypothesis =>
      exact keeps_runWith owners inductionHypothesis

/--
Whatever a program does with the hub, whatever the owners do when they are told of events, and wherever
any of them fails: as long as no gesture is started that is active, every gesture listens exactly
while it is active after each step, it is active from its start to its release, and whoever is told of
an event was active when it came.  The steps are all that happens to the hub.
-/
theorem run_listensExactly
    (owners : Owners β σ ε)
    (tooDeep : ε)
    (depth : Nat)
    (program : Program β σ ε)
    (state : σ)
    (orderly :
      ∀ moment ∈ (program.run owners tooDeep depth ({}, state)).moments, moment.IsOrderly) :
    let passage := program.run owners tooDeep depth ({}, state)
    (∀ moment ∈ passage.moments,
      moment.after.ListensExactly ∧ moment.Activates ∧ moment.TellsActive) ∧
      Linked {} passage.moments passage.current.1 ∧
      passage.current.1.ListensExactly := by
  intro passage
  have areKept : AreKept {} passage.moments passage.current.1 :=
    Program.keeps_run owners tooDeep depth program ({}, state) isMatched_new orderly
  refine ⟨?_, areKept.linked, areKept.ends.listensExactly⟩
  intro moment member
  obtain ⟨after, activates, tells⟩ := areKept.each moment member
  exact ⟨after.listensExactly, activates, tells⟩

/--
The owner of the first gesture releases the second one at every move, which still reaches it.  The second
one is started anew; at its end the first owner moves the pointer once more, and fails.
-/
theorem run_listensExactly_released :
    let gesture (owner : String) : Gesture String :=
      { startX := .int 0, trackWidth := .int 600, maxTime := .int 60, owner }
    let note (owner : String) : Program String (List String) String :=
      .look fun (_, told) => .set (told ++ [owner])
    let owners : Owners String (List String) String := {
      moved := fun _ gesture =>
        (note gesture.owner).andThen (if gesture.owner = "first" then .release 1 else .done)
      ended := fun gesture =>
        (note gesture.owner).andThen ((Program.move (.int 40)).andThen (.fail "end failed"))
    }
    let program : Program String (List String) String :=
      .andThen (.make (gesture "first")) <|
        .andThen (.make (gesture "second")) <|
          .andThen (.start 0) <|
            .within 1 <| .andThen (.move (.int 30)) <| .andThen (.start 1) .up
    let passage := program.run owners "too deep" 3 ({}, [])
    (∀ moment ∈ passage.moments, moment.IsOrderly) ∧
      passage.moments.length = 14 ∧
      passage.current.2 = ["first", "second", "first", "first", "second"] ∧
      passage.failure? = some "end failed" ∧
      passage.current.1.ListensExactly ∧
      passage.current.1.listenerCount = 0 := by
  intro gesture note owners program passage
  have orderly : ∀ moment ∈ passage.moments, moment.IsOrderly := by
    decide +kernel
  obtain ⟨-, -, listensExactly⟩ := run_listensExactly owners "too deep" 3 program [] orderly
  refine ⟨orderly, ?_, ?_, ?_, listensExactly, ?_⟩
  · decide +kernel
  · decide +kernel
  · decide +kernel
  · decide +kernel

end SceneEditor.PointerHub
