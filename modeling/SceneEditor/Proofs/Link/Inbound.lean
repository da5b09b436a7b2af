import SceneEditor.Link.Basic
import SceneEditor.Proofs.Attempt
import SceneEditor.Proofs.Link.Refusal
import SceneEditor.Proofs.Session.Run

namespace SceneEditor

/-!
# From the socket to the session

A link hands the body of every world update to a follower, which keeps a state and may fail.  Here a
message is taken in one step after another: it is read, looked at, and handed over, and each step
may fail.  A message that is no frame and a follower that fails are caught, and a failure of any
other kind would go on to the caller and end the stream.

There is no such failure.  So a stream is taken in message by message to its end, and the follower
has seen the bodies of the updates, each once and in their order, and nothing else.
-/

/-- The body that a message holds for a subscription, if it is a world update for it. -/
def Message.updateFor? (subscription : String) (message : Message) : Option String :=
  match Frame.decode? message with
  | .ok (some frame) =>
      if frame.command = "MESSAGE"
          ∧ (frame.header? "subscription" = none
            ∨ frame.header? "subscription" = some subscription) then
        some frame.body
      else none
  | _ => none

/-- What a body makes of a state, and the message of the failure, if taking it in fails. -/
abbrev Follower (σ : Type) := σ → String → σ × Option String

/-- A link and the state of what follows it. -/
structure Followed (σ : Type) where
  link : Link
  state : σ

/-- Why a step failed. -/
inductive HandlingFailure where
  | unreadable (error : FrameError)
  | follower (message : String)
  deriving DecidableEq, Repr

/-- The failures that are noted in the journal; any other one goes on to the caller. -/
def HandlingFailure.isCaught : HandlingFailure → Bool
  | unreadable .brokenBody => false
  | _ => true

/-- What the log says of a failure. -/
def HandlingFailure.message : HandlingFailure → String
  | unreadable error => "Invalid STOMP frame: " ++ error.message
  | follower message => "Error handling world update: " ++ message

/-- The bodies that a link handed over, in order. -/
def Link.delivered (link : Link) : List String :=
  link.trace.filterMap fun
    | .delivered body _ => some body
    | _ => none

namespace Followed

open Attempt

/-- Steps that change the link and the state one after another, up to the first that fails. -/
abbrev Step (σ : Type) := EStateM HandlingFailure (Followed σ)

/-- The frame of a message, or nothing for a heartbeat. -/
def read (message : Message) : Step σ (Option Frame) :=
  match Frame.decode? message with
  | .ok frame? => return frame?
  | .error error => throw (.unreadable error)

/-- Note a line in the log of the link. -/
def note (level : LogLevel) (message : String) : Step σ Unit :=
  modify fun followed => { followed with link := followed.link.note level message }

/-- Note a failure and go on without a result, or let it go on to the caller. -/
def absorb (failure : HandlingFailure) : Step σ (Option α) := do
  if failure.isCaught then
    note .error failure.message
    pure none
  else throw failure

/-- Call the follower; what it did to its state stays done if it fails. -/
def call (follower : Follower σ) (body : String) : Step σ (Option Unit) := do
  let (state, failure?) := follower (← get).state body
  modify fun followed =>
    { link := followed.link.record (.delivered body failure?), state }
  match failure? with
  | some message => throw (.follower message)
  | none => return some ()

/-- Look at a frame that is no update. -/
def overlook (frame : Frame) : Step σ Unit :=
  if frame.command = "MESSAGE" || frame.command = "RECEIPT" then return ()
  else if frame.command = "ERROR" then
    note .error (trimmed
      ("Server error: " ++ (frame.header? "message").getD "" ++ " " ++ frame.body))
  else note .warning ("Unexpected frame: " ++ frame.command)

/-- Hand the body of an update to the follower, whose failure is noted and goes no further, and pass
over any other frame. -/
def handOver (follower : Follower σ) (frame : Frame) : Step σ Unit := do
  match (← get).link.update? frame with
  | some body =>
      let _ ← tryCatch (call follower body) absorb
      return ()
  | none => overlook frame

/-- Take in a message: a heart-beat and a message that cannot be read are passed over. -/
def takeIn (follower : Follower σ) (message : Message) : Step σ Unit := do
  match ← tryCatch (some <$> read message) absorb with
  | some (some frame) => handOver follower frame
  | _ => return ()

/-- Take in one message after another. -/
def takeAll (follower : Follower σ) (messages : List Message) : Step σ Unit :=
  forM messages (takeIn follower)

/-- The same at once: the link handles the message, and the follower sees its update, if any. -/
def handle (follower : Follower σ) (followed : Followed σ) (message : Message) : Followed σ where
  link := followed.link.handle (some fun body => (follower followed.state body).2) message
  state :=
    ((message.updateFor? followed.link.subscription).map fun body =>
      (follower followed.state body).1).getD followed.state

/-!
## Nothing escapes
-/

/-- The body of an update for this subscription, or for none in particular. -/
theorem update?_eq
    (link : Link)
    (frame : Frame) :
    link.update? frame =
      if frame.command = "MESSAGE"
          ∧ (frame.header? "subscription" = none
            ∨ frame.header? "subscription" = some link.subscription) then
        some frame.body
      else none := by
  unfold Link.update?
  cases frame.header? "subscription" <;> simp

/-- A message is an update if its frame is. -/
theorem updateFor?_of_frame
    {message : Message}
    {frame : Frame}
    (read : Frame.decode? message = .ok (some frame))
    (link : Link) :
    message.updateFor? link.subscription = link.update? frame := by
  simp only [Message.updateFor?, read, update?_eq]

/-- A failure that is caught is noted. -/
theorem run_absorb
    {failure : HandlingFailure}
    (caught : failure.isCaught = true)
    (followed : Followed σ) :
    (absorb failure : Step σ (Option α)).run followed =
      .ok none { followed with link := followed.link.note .error failure.message } := by
  rw [absorb, if_pos caught, note, run_bind_ok (run_modify _ followed)]
  rfl

/-- A frame that cannot be read is caught, since no body is ever broken. -/
theorem isCaught_unreadable
    {error : FrameError}
    (notBroken : error ≠ .brokenBody) :
    (HandlingFailure.unreadable error).isCaught = true := by
  cases error with
  | brokenBody =>
      exact absurd rfl notBroken
  | _ =>
      rfl

/-- What is noted of a frame that is no update. -/
theorem run_overlook
    (frame : Frame)
    (followed : Followed σ) :
    (overlook frame).run followed =
      .ok ()
        { followed with
          link :=
            if frame.command = "MESSAGE" || frame.command = "RECEIPT" then followed.link
            else if frame.command = "ERROR" then
              followed.link.note .error (trimmed
                ("Server error: " ++ (frame.header? "message").getD "" ++ " " ++ frame.body))
            else followed.link.note .warning ("Unexpected frame: " ++ frame.command) } := by
  unfold overlook
  split
  · rfl
  · split <;> rfl

/-- Handing a frame over comes to the same as handling the message. -/
theorem run_handOver
    (follower : Follower σ)
    {message : Message}
    {frame : Frame}
    (read : Frame.decode? message = .ok (some frame))
    (followed : Followed σ) :
    (handOver follower frame).run followed = .ok () (handle follower followed message) := by
  have update := updateFor?_of_frame read followed.link
  rw [handOver, run_get_bind]
  cases found : followed.link.update? frame with
  | none =>
      rw [found] at update
      simp only [found, run_overlook, handle, update, Link.handle, read]
      rfl
  | some body =>
      rw [found] at update
      simp only [found, handle, update, Link.handle, read, Link.deliver]
      cases outcome : follower followed.state body with
      | mk state failure? =>
          cases failure? with
          | none =>
              have called :
                  (call follower body).run followed =
                    .ok (some ())
                      { link := followed.link.record (.delivered body none), state } := by
                rw [call, run_get_bind]
                simp only [outcome]
                rw [run_bind_ok (run_modify _ followed)]
                rfl
              rw [run_bind_ok (run_tryCatch_ok called)]
              simp only [Option.map_some, Option.getD_some, outcome]
              rfl
          | some failure =>
              have called :
                  (call follower body).run followed =
                    .error (.follower failure)
                      { link := followed.link.record (.delivered body (some failure)), state } := by
                rw [call, run_get_bind]
                simp only [outcome]
                rw [run_bind_ok (run_modify _ followed)]
                rfl
              have absorbed := (run_tryCatch_error called).trans (run_absorb rfl _)
              rw [run_bind_ok absorbed]
              simp only [Option.map_some, Option.getD_some, outcome]
              rfl

/-- Taking in a message never fails, and does what the link does at once. -/
theorem run_takeIn
    (follower : Follower σ)
    (message : Message)
    (followed : Followed σ) :
    (takeIn follower message).run followed = .ok () (handle follower followed message) := by
  cases decoded : Frame.decode? message with
  | error error =>
      have notBroken : error ≠ .brokenBody := by
        rintro rfl
        exact Frame.decode?_ne_brokenBody message decoded
      have failed :
          (some <$> read message : Step σ (Option (Option Frame))).run followed =
            .error (.unreadable error) followed := by
        rw [read, decoded]
        rfl
      have absorbed :=
        (run_tryCatch_error failed).trans (run_absorb (isCaught_unreadable notBroken) followed)
      rw [takeIn, run_bind_ok absorbed]
      simp only [handle, Message.updateFor?, decoded, Link.handle]
      rfl
  | ok frame? =>
      have succeeded :
          (some <$> read message : Step σ (Option (Option Frame))).run followed =
            .ok (some frame?) followed := by
        rw [read, decoded]
        rfl
      rw [takeIn, run_bind_ok (run_tryCatch_ok succeeded)]
      cases frame? with
      | none =>
          simp only [handle, Message.updateFor?, decoded, Link.handle]
          rfl
      | some frame =>
          exact run_handOver follower decoded followed

/-- Taking all messages in comes to the same as handling one after another. -/
theorem run_takeAll
    (follower : Follower σ)
    (messages : List Message)
    (followed : Followed σ) :
    (takeAll follower messages).run followed =
      .ok () (messages.foldl (handle follower) followed) :=
  run_forM (run_takeIn follower) messages followed

/-!
## What the follower sees
-/

@[simp] theorem delivered_note
    (link : Link)
    (level : LogLevel)
    (message : String) :
    (link.note level message).delivered = link.delivered := by
  simp [Link.delivered, Link.note, Link.record]

/-- A body that is delivered stands behind all others. -/
theorem delivered_deliver
    (listener : Listener)
    (link : Link)
    (body : String) :
    (Link.deliver (some listener) link body).delivered = link.delivered ++ [body] := by
  have told :
      (link.record (.delivered body (listener body))).delivered = link.delivered ++ [body] := by
    simp [Link.delivered, Link.record]
  unfold Link.deliver
  dsimp only
  split
  · rw [delivered_note, told]
  · exact told

/-- A link hands over the update that a message holds, and nothing from any other message. -/
theorem delivered_handle
    (listener : Listener)
    (link : Link)
    (message : Message) :
    (link.handle (some listener) message).delivered =
      link.delivered ++ (message.updateFor? link.subscription).toList := by
  unfold Link.handle
  split
  · next error decoded =>
    simp [Message.updateFor?, decoded]
  · next decoded =>
    simp [Message.updateFor?, decoded]
  · next frame decoded =>
    rw [updateFor?_of_frame decoded]
    split
    · next body found =>
      rw [found, delivered_deliver]
      rfl
    · next missing =>
      rw [missing]
      split
      · simp
      · split <;> simp

/-- Handling a message leaves the subscription. -/
theorem subscription_handle
    (listener : Listener)
    (link : Link)
    (message : Message) :
    (link.handle (some listener) message).subscription = link.subscription := by
  unfold Link.handle
  split
  · rfl
  · rfl
  · split
    · unfold Link.deliver
      dsimp only
      split <;> rfl
    · split
      · rfl
      · split <;> rfl

/-- The state that a follower has after some bodies, whether or not it failed on them. -/
def Follower.after (follower : Follower σ) (state : σ) (bodies : List String) : σ :=
  bodies.foldl (fun current body => (follower current body).1) state

/-- The follower sees the updates in order, each once; the induction is on the messages. -/
theorem foldl_handle
    (follower : Follower σ)
    (messages : List Message)
    (followed : Followed σ) :
    let bodies := messages.filterMap (Message.updateFor? followed.link.subscription)
    (messages.foldl (handle follower) followed).link.delivered =
        followed.link.delivered ++ bodies ∧
      (messages.foldl (handle follower) followed).state =
        Follower.after follower followed.state bodies := by
  induction messages generalizing followed with
  | nil =>
      simp [Follower.after]
  | cons message rest inductionHypothesis =>
      obtain ⟨delivered, state⟩ := inductionHypothesis (handle follower followed message)
      have subscription :
          (handle follower followed message).link.subscription = followed.link.subscription :=
        subscription_handle _ followed.link message
      have first :
          (handle follower followed message).link.delivered =
            followed.link.delivered ++
              (message.updateFor? followed.link.subscription).toList :=
        delivered_handle _ followed.link message
      rw [subscription] at delivered state
      rw [List.foldl_cons, delivered, state, first]
      cases found : message.updateFor? followed.link.subscription with
      | none =>
          rw [List.filterMap_cons_none found]
          simp [handle, found]
      | some body =>
          rw [List.filterMap_cons_some found]
          simp [handle, found, Follower.after]

end Followed

/-!
## The session as a follower
-/

namespace Session

open Followed

/-- A callback that hands every body to the session, and may fail when it has done so. -/
def follower (failure? : Session → String → Option String) : Follower Session :=
  fun session body => ((session.receive (.text body)).session, failure? session body)

/-- A session merges a message into its replica and into nothing else of the world. -/
theorem replica_receive
    (session : Session)
    (message : Message) :
    (session.receive message).session.replica = (session.replica.receive message).1 := by
  unfold receive
  split
  · next replica reason received =>
    rw [received]
  · next replica changed? received =>
    rw [received]

/-- A session that follows the updates receives their bodies. -/
theorem after_follower
    (failure? : Session → String → Option String)
    (session : Session)
    (bodies : List String) :
    Follower.after (follower failure?) session bodies =
      session.run (bodies.map fun body => .receive (.text body)) := by
  rw [run, List.foldl_map]
  rfl

/-- The replica behind the updates is that of their bodies alone, whatever callbacks fail. -/
theorem replica_after_follower
    (failure? : Session → String → Option String)
    (session : Session)
    (bodies : List String) :
    (Follower.after (follower failure?) session bodies).replica =
      bodies.foldl (fun replica body => (replica.receive (.text body)).1) session.replica := by
  induction bodies generalizing session with
  | nil =>
      rfl
  | cons body rest inductionHypothesis =>
      have first := replica_receive session (.text body)
      exact (inductionHypothesis (session.receive (.text body)).session).trans (by rw [first]; rfl)

/--
However long a stream is and whatever its messages are, it is taken in to its end, as the link
handles them one by one.  The bodies that are handed to the session are the bodies of the updates
for this link, in the order of their arrival, and the session is what it is after receiving just
these; so is the world.  A message that is no update changes nothing in the session.  It does not matter
on which bodies the callback fails, and with which messages.
-/
theorem takeAll_delivers_updates
    (failure? : Session → String → Option String)
    (messages : List Message)
    (link : Link)
    (session : Session) :
    let bodies := messages.filterMap (Message.updateFor? link.subscription)
    let later := messages.foldl (handle (follower failure?)) { link, state := session }
    (takeAll (follower failure?) messages).run { link, state := session } = .ok () later ∧
      later.link.delivered = link.delivered ++ bodies ∧
      later.state = session.run (bodies.map fun body => .receive (.text body)) ∧
      later.state.world =
        (bodies.foldl (fun replica body => (replica.receive (.text body)).1)
          session.replica).world ∧
      ∀ (message : Message) (current : Session),
        message.updateFor? link.subscription = none →
          ∃ told, (takeIn (follower failure?) message).run { link, state := current } =
            .ok () { link := told, state := current } := by
  intro bodies later
  obtain ⟨delivered, state⟩ :=
    foldl_handle (follower failure?) messages { link, state := session }
  refine ⟨run_takeAll _ messages _, delivered, ?_, ?_, ?_⟩
  · exact state.trans (after_follower failure? session bodies)
  · exact congrArg Replica.world
      ((congrArg replica state).trans (replica_after_follower failure? session bodies))
  · intro message current noUpdate
    have unchanged :
        (handle (follower failure?) { link, state := current } message).state = current := by
      simp only [handle, noUpdate]
      rfl
    refine ⟨(handle (follower failure?) { link, state := current } message).link, ?_⟩
    rw [run_takeIn]
    exact congrArg (fun state => EStateM.Result.ok () (Followed.mk _ state)) unchanged

/-- A heart-beat, junk, two updates, the first of which fails, and an update for somebody else. -/
theorem takeAll_delivers_updates_boom :
    let link := Link.of {} []
    let failure? (_ : Session) (body : String) : Option String :=
      if body = "boom" then some "handler failed" else none
    let foreign : Message := .text "MESSAGE\nsubscription:other\n\nz\x00"
    let messages : List Message := [
      .text "\n",
      .text "junk",
      .text "MESSAGE\nsubscription:sub-00000001\n\nboom\x00",
      foreign,
      .text "MESSAGE\n\n\x7b\"isPlaying\": true\x7d\x00"
    ]
    let later :=
      messages.foldl (handle (follower failure?)) { link, state := fresh none {} }
    later.link.delivered = ["boom", "\x7b\"isPlaying\": true\x7d"] ∧
      later.state.world.isPlaying = true ∧
      foreign.updateFor? link.subscription = none ∧
      ∃ told, (takeIn (follower failure?) foreign).run { link, state := fresh none {} } =
        .ok () { link := told, state := fresh none {} } := by
  intro link failure? foreign messages later
  obtain ⟨-, delivered, -, world, quiet⟩ :=
    takeAll_delivers_updates failure? messages link (fresh none {})
  have bodies :
      messages.filterMap (Message.updateFor? link.subscription) =
        ["boom", "\x7b\"isPlaying\": true\x7d"] := by
    decide +kernel
  rw [bodies] at delivered world
  have noUpdate : foreign.updateFor? link.subscription = none := by
    decide +kernel
  refine ⟨delivered, ?_, noUpdate, quiet foreign (fresh none {}) noUpdate⟩
  rw [world]
  decide +kernel

end Session

end SceneEditor
