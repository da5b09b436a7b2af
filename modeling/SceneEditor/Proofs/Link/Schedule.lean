import Mathlib.Logic.Relation
import SceneEditor.Proofs.Link.Effect

namespace SceneEditor

/-!
# Schedules of a run

A run and the sender that it starts are two tasks, and texts are published by others.  A task goes
on until it has to wait: for a socket, for a message, for a send, or for the other task to end.
Then any of the others may go on.

Here a run is taken apart at the places where it waits.  A moment says where both tasks stand, and a
step lets one of them go on or publishes a text.  Whatever steps follow one another are a schedule;
`Link.run` is one of them, in which the sender goes on only between two items of a stream.

Only a listener asks to disconnect here, so `disconnect` is an item of the stream.  The program asks
for it once more from beside the run, when it is about to end, and cancels the run right after;
schedules end before that.
-/

/-- Where an attempt to connect stands. -/
inductive Dial where
  | calling
  | opening
  | greeting (host : String)
  | awaiting
  | subscribing
  | subscribed
  deriving DecidableEq, Repr

/-- Where a run stands. -/
inductive Stage where
  /-- It is about to see whether it is connected. -/
  | ready
  | dialling (dial : Dial)
  /-- An attempt failed, and its socket is being closed. -/
  | abandoning
  /-- It waits before the next attempt. -/
  | resting
  | listening (items : List StreamItem)
  /-- It was asked to disconnect, and is about to tell the server. -/
  | parting (items : List StreamItem)
  | parted (items : List StreamItem)
  /-- It was asked to disconnect, and waits for the sender to end. -/
  | dismissing (items : List StreamItem)
  | leaving (items : List StreamItem)
  /-- The stream broke, and the socket is being closed. -/
  | breaking
  /-- The stream broke, and the run waits for a second. -/
  | pausing
  /-- The stream ended, and the run waits for the sender to end. -/
  | stopping
  | finished
  | escaped (failure : LinkFailure)
  deriving DecidableEq, Repr

namespace Stage

/-- The run has ended. -/
def isOver : Stage → Bool
  | finished | escaped _ => true
  | _ => false

/-- The sender has been told to end. -/
def isDismissal : Stage → Bool
  | dismissing _ | stopping => true
  | _ => false

end Stage

/-- Where the sender stands. -/
inductive SenderStage where
  | absent
  | waiting
  /-- It took a text, and the send of it has begun. -/
  | holding (text : String)
  /-- It wrote a text, and the send of it has not come back. -/
  | sent
  /-- It ended because it was told to. -/
  | cancelled
  /-- It ended because a send failed. -/
  | lost
  /-- It ended because it took a text when there was no socket. -/
  | stranded
  deriving DecidableEq, Repr

namespace SenderStage

/-- Nothing but an end that was expected is left of it. -/
def isGone : SenderStage → Bool
  | absent | cancelled | lost => true
  | _ => false

/-- It can still be told to end. -/
def isAlive : SenderStage → Bool
  | waiting | holding _ | sent => true
  | _ => false

/-- The text that it took and did not write. -/
def inFlight : SenderStage → List String
  | holding text => [text]
  | _ => []

end SenderStage

/-- A link in the course of a run. -/
structure Moment where
  link : Link
  stage : Stage
  sender : SenderStage
  deriving Repr

namespace Link

/-- Publish a text, and keep in the trace whether it was accepted. -/
def offer (link : Link) (text : String) : Link :=
  (link.publish text).1.record (.published text (link.publish text).2)

theorem keeps_offer
    (link : Link)
    (text : String) :
    Keeps link (link.offer text) :=
  (link.keeps_publish text).trans (keeps_record _ _)

/-- Publishing changes nothing but the queue and the trace. -/
theorem offer_fields
    (link : Link)
    (text : String) :
    (link.offer text).sender = link.sender ∧ (link.offer text).socket? = link.socket? := by
  unfold offer publish
  split <;> exact ⟨rfl, rfl⟩

/-- A connected link puts an offered text behind the others. -/
theorem offer_queue
    (link : Link)
    (text : String)
    (connected : link.isConnected = true) :
    (link.offer text).queue = link.queue ++ [text] := by
  simp only [offer, publish, connected, if_true]
  rfl

/-- Note that a stream broke. -/
def noteBreak (link : Link) (fault : Fault) : Link :=
  ((link.note .error "EXCEPTION in message loop").note .error
    ("  Type: " ++ fault.kind)).note .error ("  Message: " ++ fault.message)

theorem tells_noteBreak
    (link : Link)
    (fault : Fault) :
    Tells link (link.noteBreak fault) :=
  ((Tells.note _ _ _).trans (.note _ _ _)).trans (.note _ _ _)

/-- Write a frame of the handshake, and go on from a stage if that succeeds. -/
def writeThen
    (link : Link)
    (frame : Frame)
    (next : Dial) :
    Link × Except LinkFailure (Option Dial) :=
  match link.write frame with
  | (written, none) => (written, .ok (some next))
  | (written, some failure) => (written, .error failure)

/-- Read an item of the handshake. -/
def hear (link : Link) : Link × Except LinkFailure (Option Dial) :=
  match link.socket? with
  | none => (link, .error .notConnected)
  | some socket =>
      match socket.handshake with
      | [] => (link, .error (.fault .closed))
      | .fault fault :: handshake =>
          ({ link with socket? := some { socket with handshake } }, .error (.fault fault))
      | .message message :: handshake =>
          ({ link with socket? := some { socket with handshake } },
            (judge message).map fun answered =>
              some (if answered then .subscribing else .awaiting))

/-- Go on with an attempt: to its next stage, to none if it succeeded, or to its failure. -/
def dial (link : Link) : Dial → Link × Except LinkFailure (Option Dial)
  | .calling =>
      if link.settings.connectTimeout.le 0 then (link, .error (.fault .timeout))
      else
        (link.record (.called link.settings.url link.settings.heartbeatInterval),
          .ok (some .opening))
  | .opening =>
      match link.attempts with
      | [] => (link, .error (.fault .refused))
      | .fault fault :: attempts => ({ link with attempts }, .error (.fault fault))
      | .opened socket :: attempts =>
          ({ link with attempts, socket? := some socket },
            match Address.host link.settings.url with
            | .error error => .error (.badAddress error)
            | .ok host => .ok (some (.greeting host)))
  | .greeting host =>
      link.writeThen (.connect (if host.isEmpty then "localhost" else host) 0) .awaiting
  | .awaiting => link.hear
  | .subscribing =>
      link.writeThen (.subscribe link.settings.worldTopic link.subscription) .subscribed
  | .subscribed => (link, .ok none)

/-- The text is written as a command. -/
def commandFrame (link : Link) (text : String) : Frame :=
  .send link.settings.commandDestination text

end Link

namespace Link

/-!
## What an attempt to connect changes
-/

/-- What an attempt leaves as it is, and that it may use up the attempts that are to come. -/
structure Dialled (link later : Link) : Prop where
  settings : later.settings = link.settings
  state : later.state = link.state
  running : later.running = link.running
  queue : later.queue = link.queue
  attempts : later.attempts ⊆ link.attempts
  trace :
    ∃ events,
      (∀ event ∈ events, event.isQuiet = true ∨ event.isCall = true)
        ∧ later.trace = link.trace ++ events

namespace Dialled

variable {link later : Link} {result : Except LinkFailure (Option Dial)}

theorem refl
    (link : Link) :
    Dialled link link :=
  ⟨rfl, rfl, rfl, rfl, fun _ member => member, [], by simp, by simp⟩

/-- Writing a frame that carries no text is a part of an attempt. -/
theorem of_write
    {frame : Frame}
    {failure? : Option LinkFailure}
    (notText : frame.command ≠ "SEND")
    (written : link.write frame = (later, failure?)) :
    Dialled link later := by
  have quiet : (LinkEvent.wrote frame).isQuiet = true := by
    simpa [LinkEvent.isQuiet] using notText
  cases writes_of_eq written with
  | missing _ =>
      exact .refl link
  | fails _ _ =>
      exact ⟨rfl, rfl, rfl, rfl, fun _ member => member, [], by simp, by simp⟩
  | succeeds _ _ =>
      exact ⟨rfl, rfl, rfl, rfl, fun _ member => member, [.wrote frame], by simp [quiet], rfl⟩

theorem of_writeThen
    {frame : Frame}
    {next : Dial}
    (notText : frame.command ≠ "SEND")
    (written : link.writeThen frame next = (later, result)) :
    Dialled link later := by
  unfold writeThen at written
  split at written <;>
    next sent =>
      obtain ⟨rfl, -⟩ := Prod.mk.inj written
      exact of_write notText sent

theorem of_hear
    (heard : link.hear = (later, result)) :
    Dialled link later := by
  unfold hear at heard
  split at heard
  · obtain ⟨rfl, -⟩ := Prod.mk.inj heard
    exact .refl link
  · split at heard <;>
      obtain ⟨rfl, -⟩ := Prod.mk.inj heard
    · exact .refl link
    all_goals
      exact ⟨rfl, rfl, rfl, rfl, fun _ member => member, [], by simp, by simp⟩

/-- Each stage is a part of an attempt. -/
theorem of_dial
    {stage : Dial}
    (dialled : link.dial stage = (later, result)) :
    Dialled link later := by
  cases stage with
  | calling =>
      simp only [dial] at dialled
      split at dialled <;>
        obtain ⟨rfl, -⟩ := Prod.mk.inj dialled
      · exact .refl link
      · refine ⟨rfl, rfl, rfl, rfl, fun _ member => member, [.called _ _], ?_, rfl⟩
        simp [LinkEvent.isCall]
  | opening =>
      simp only [dial] at dialled
      split at dialled <;>
        obtain ⟨rfl, -⟩ := Prod.mk.inj dialled
      · exact .refl link
      all_goals
        next used =>
          refine ⟨rfl, rfl, rfl, rfl, ?_, [], by simp, by simp⟩
          simp [used]
  | greeting host =>
      exact of_writeThen (by simp [Frame.connect]) dialled
  | awaiting =>
      exact of_hear dialled
  | subscribing =>
      exact of_writeThen (by simp [Frame.subscribe]) dialled
  | subscribed =>
      obtain ⟨rfl, -⟩ := Prod.mk.inj dialled
      exact .refl link

end Dialled

end Link

/-- A link that gets one socket, which answers and has a stream, and that tries no further. -/
def Link.onSocket (stream : List StreamItem) : Link :=
  .of { maxReconnectAttempts := 0 }
    [.opened { handshake := [.message (.text "CONNECTED\n\n\x00")], stream }]

/-- A run begins: it is about to see whether it is connected. -/
def Moment.start (link : Link) : Moment where
  link := { link with running := true }
  stage := .ready
  sender := .absent

namespace Schedule

/-- The run goes on to where it has to wait. -/
inductive RunStep : Moment → Moment → Prop
  | finish
      (off : link.running = false) :
      RunStep ⟨link, .ready, sender⟩ ⟨link, .finished, sender⟩
  | call
      (on : link.running = true)
      (apart : link.isConnected = false) :
      RunStep
        ⟨link, .ready, sender⟩
        ⟨{ link with state := .connecting }, .dialling .calling, sender⟩
  | dial
      (dialled : link.dial stage = (later, .ok (some next))) :
      RunStep ⟨link, .dialling stage, sender⟩ ⟨later, .dialling next, sender⟩
  | connect
      (dialled : link.dial stage = (later, .ok none)) :
      RunStep
        ⟨link, .dialling stage, sender⟩
        ⟨{ later with state := .connected, failures := 0 }, .ready, sender⟩
  | fail
      {failure : LinkFailure}
      (dialled : link.dial stage = (later, .error failure))
      (expected : failure.isExpected = true) :
      RunStep
        ⟨link, .dialling stage, sender⟩
        ⟨later.noteFailure failure, .abandoning, sender⟩
  | escape
      {failure : LinkFailure}
      (dialled : link.dial stage = (later, .error failure))
      (unexpected : failure.isExpected = false) :
      RunStep ⟨link, .dialling stage, sender⟩ ⟨later, .escaped failure, sender⟩
  | giveUp
      (exhausted : link.abandon.settings.maxReconnectAttempts < link.abandon.failures) :
      RunStep
        ⟨link, .abandoning, sender⟩
        ⟨link.abandon.note .error "Max reconnection attempts reached", .finished, sender⟩
  | rest
      (patient : ¬link.abandon.settings.maxReconnectAttempts < link.abandon.failures) :
      RunStep
        ⟨link, .abandoning, sender⟩
        ⟨link.abandon.record (.slept link.abandon.settings.reconnectDelay), .resting, sender⟩
  | wake :
      RunStep ⟨link, .resting, sender⟩ ⟨link, .ready, sender⟩
  | listen
      (on : link.running = true)
      (connected : link.isConnected = true) :
      RunStep
        ⟨link, .ready, sender⟩
        ⟨{ link with sender := .working }, .listening link.stream, .waiting⟩
  | message :
      RunStep
        ⟨link, .listening (.message message :: items), sender⟩
        ⟨link.handle listener? message, .listening items, sender⟩
  | publish :
      RunStep
        ⟨link, .listening (.publish text waits :: items), sender⟩
        ⟨link.offer text, .listening items, sender⟩
  | part
      (connected : link.isConnected = true) :
      RunStep
        ⟨link, .listening (.disconnect :: items), sender⟩
        ⟨{ link with running := false }, .parting items, sender⟩
  | partUnseen
      (apart : link.isConnected = false) :
      RunStep
        ⟨link, .listening (.disconnect :: items), sender⟩
        ⟨{ link with running := false }, .parted items, sender⟩
  | farewell
      (written : link.write (.disconnect (identifier link.nextId)) = (later, failure?)) :
      RunStep
        ⟨link, .parting items, sender⟩
        ⟨{ later with nextId := link.nextId + 1 }, .parted items, sender⟩
  | dismiss :
      RunStep ⟨link, .parted items, sender⟩ ⟨link, .dismissing items, sender⟩
  | dismissed
      (gone : sender.isGone = true) :
      RunStep ⟨link, .dismissing items, sender⟩ ⟨link.stopSender, .leaving items, .absent⟩
  | leave :
      RunStep
        ⟨link, .leaving items, sender⟩
        ⟨{ link.closeSocket with state := .disconnected }, .listening items, sender⟩
  | streamEnds :
      RunStep ⟨link, .listening [], sender⟩ ⟨link.noteEnd none, .stopping, sender⟩
  | streamCloses :
      RunStep
        ⟨link, .listening (.fault .closed :: items), sender⟩
        ⟨link.noteEnd (some .closed), .stopping, sender⟩
  | streamBreaks
      (unforeseen : fault ≠ .closed) :
      RunStep
        ⟨link, .listening (.fault fault :: items), sender⟩
        ⟨link.noteBreak fault, .breaking, sender⟩
  | pause :
      RunStep
        ⟨link, .breaking, sender⟩
        ⟨link.closeSocket.record (.slept 1), .pausing, sender⟩
  | resume :
      RunStep ⟨link, .pausing, sender⟩ ⟨link, .stopping, sender⟩
  | reconnect
      (gone : sender.isGone = true)
      (on : link.running = true) :
      RunStep
        ⟨link, .stopping, sender⟩
        ⟨{ link.stopSender with state := .reconnecting, socket? := none }, .ready, .absent⟩
  | wind
      (gone : sender.isGone = true)
      (off : link.running = false) :
      RunStep ⟨link, .stopping, sender⟩ ⟨link.stopSender, .ready, .absent⟩
  | reraise :
      RunStep ⟨link, .stopping, .stranded⟩ ⟨link, .escaped .notConnected, .stranded⟩

/-- The sender goes on to where it has to wait, or ends. -/
inductive SenderStep : Moment → Moment → Prop
  | take
      (undisturbed : stage.isDismissal = false)
      (queued : link.queue = text :: rest)
      (present : link.socket? = some socket) :
      SenderStep
        ⟨link, stage, .waiting⟩
        ⟨{ link with queue := rest }, stage, .holding text⟩
  | strand
      (undisturbed : stage.isDismissal = false)
      (queued : link.queue = text :: rest)
      (missing : link.socket? = none) :
      SenderStep
        ⟨link, stage, .waiting⟩
        ⟨{ link with queue := rest }, stage, .stranded⟩
  | send
      (undisturbed : stage.isDismissal = false)
      (written : link.write (link.commandFrame text) = (later, none)) :
      SenderStep ⟨link, stage, .holding text⟩ ⟨later, stage, .sent⟩
  /-- The send began on a socket that the link has let go of since. -/
  | sendLate
      (undisturbed : stage.isDismissal = false)
      (missing : link.socket? = none) :
      SenderStep
        ⟨link, stage, .holding text⟩
        ⟨link.record (.wrote (link.commandFrame text)), stage, .sent⟩
  | lose
      {failure : LinkFailure}
      (undisturbed : stage.isDismissal = false)
      (failed : link.write (link.commandFrame text) = (later, some failure)) :
      SenderStep
        ⟨link, stage, .holding text⟩
        ⟨{ later with sender := .failed }, stage, .lost⟩
  | loseLate
      (undisturbed : stage.isDismissal = false) :
      SenderStep ⟨link, stage, .sent⟩ ⟨{ link with sender := .failed }, stage, .lost⟩
  | comeBack
      (undisturbed : stage.isDismissal = false) :
      SenderStep ⟨link, stage, .sent⟩ ⟨link, stage, .waiting⟩
  | cancel
      (dismissed : stage.isDismissal = true)
      (alive : sender.isAlive = true) :
      SenderStep ⟨link, stage, sender⟩ ⟨link, stage, .cancelled⟩

/-- A task goes on, or a text is published. -/
inductive Step : Moment → Moment → Prop
  | run (step : RunStep moment later) : Step moment later
  | sender (step : SenderStep moment later) : Step moment later
  | publish
      (text : String)
      (on : stage.isOver = false) :
      Step ⟨link, stage, sender⟩ ⟨link.offer text, stage, sender⟩

/-- A schedule leads from a moment to another. -/
abbrev Reaches : Moment → Moment → Prop :=
  Relation.ReflTransGen Step

end Schedule

end SceneEditor
