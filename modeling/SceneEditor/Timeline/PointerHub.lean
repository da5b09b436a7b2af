import SceneEditor.Timeline.Track

namespace SceneEditor

/-!
# Pointer gestures

The hub hands every pointer event to the gestures that listen to it, wherever the pointer is.  A
gesture listens to moves and to the release of the pointer from its start on; the release ends it,
and it stops listening even if what it does at its end fails.  A failure keeps the event from
the listeners that come later.
-/

/-- A drag of the pointer on a track that was measured when the drag began. -/
structure Gesture (β : Type) where
  startX : Num
  trackWidth : Num
  maxTime : Num
  /-- Who is told of the drag. -/
  owner : β
  active : Bool := false
  deriving DecidableEq, Repr

/-- The seconds that the pointer has moved since the drag began. -/
def Gesture.secondsAt (gesture : Gesture β) (x : Num) : Except NumberError Num := do
  Track.seconds (← x.sub gesture.startX) gesture.trackWidth gesture.maxTime

/-- All gestures ever made, which are named by their places, and who listens to which event. -/
structure PointerHub (β : Type) where
  gestures : List (Gesture β) := []
  moveListeners : List Nat := []
  upListeners : List Nat := []
  deriving DecidableEq, Repr

namespace PointerHub

/-- Make a gesture, which does not listen yet; its place is the number of gestures so far. -/
def make (hub : PointerHub β) (gesture : Gesture β) : PointerHub β :=
  { hub with gestures := hub.gestures ++ [{ gesture with active := false }] }

/-- The hub with a gesture active or not. -/
def mark (hub : PointerHub β) (place : Nat) (active : Bool) : PointerHub β :=
  { hub with gestures := hub.gestures.modify place fun gesture => { gesture with active } }

/-- Let a gesture listen to both events. -/
def start (hub : PointerHub β) (place : Nat) : PointerHub β :=
  { hub.mark place true with
    moveListeners := hub.moveListeners ++ [place]
    upListeners := hub.upListeners ++ [place] }

/-- Take a gesture once from the listeners to both events, if it is among them. -/
def release (hub : PointerHub β) (place : Nat) : PointerHub β :=
  { hub.mark place false with
    moveListeners := hub.moveListeners.erase place
    upListeners := hub.upListeners.erase place }

/-- How many listeners there are for moves and for the end. -/
def listenerCount (hub : PointerHub β) : Nat :=
  hub.moveListeners.length + hub.upListeners.length

/-- Call one listener after another, up to the first that fails. -/
def deliver (call : Nat → σ → σ × Option ε) : List Nat → σ → σ × Option ε
  | [], state => (state, none)
  | place :: rest, state =>
      match call place state with
      | (state, some failure) => (state, some failure)
      | (state, none) => deliver call rest state

/-- Tell the gesture at a place of something, if there is one. -/
def tell
    (hub : PointerHub β)
    (told : Gesture β → σ → σ × Option ε)
    (place : Nat)
    (state : σ) :
    σ × Option ε :=
  match hub.gestures[place]? with
  | some gesture => told gesture state
  | none => (state, none)

/-- Tell the listeners of a move, in order, up to the first that fails. -/
def pointerMove
    (hub : PointerHub β)
    (moved : Gesture β → σ → σ × Option ε)
    (state : σ) :
    σ × Option ε :=
  deliver (hub.tell moved) hub.moveListeners state

/--
End one gesture: its owner is told, who may do anything with the hub, and after that the gesture is
released in any case.
-/
def finish
    (ended : Gesture β → PointerHub β × σ → (PointerHub β × σ) × Option ε)
    (place : Nat)
    (current : PointerHub β × σ) :
    (PointerHub β × σ) × Option ε :=
  let ((hub, state), failure?) := current.1.tell ended place current
  ((hub.release place, state), failure?)

/-- The release of the pointer, which the gestures hear of that listen to it when it comes. -/
def pointerUpWith
    (hub : PointerHub β)
    (ended : Gesture β → PointerHub β × σ → (PointerHub β × σ) × Option ε)
    (state : σ) :
    (PointerHub β × σ) × Option ε :=
  deliver (finish ended) hub.upListeners (hub, state)

/-- What an owner does at the end of a gesture who leaves the hub alone. -/
def aside
    (ended : Gesture β → σ → σ × Option ε)
    (gesture : Gesture β)
    (current : PointerHub β × σ) :
    (PointerHub β × σ) × Option ε :=
  let (state, failure?) := ended gesture current.2
  ((current.1, state), failure?)

/-- The release of the pointer when no owner touches the hub. -/
def pointerUp
    (hub : PointerHub β)
    (ended : Gesture β → σ → σ × Option ε)
    (state : σ) :
    (PointerHub β × σ) × Option ε :=
  hub.pointerUpWith (aside ended) state

end PointerHub

end SceneEditor
