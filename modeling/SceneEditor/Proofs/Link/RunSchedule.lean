import SceneEditor.Proofs.Link.Schedule
import SceneEditor.Proofs.Link.Turns

namespace SceneEditor

/-!
# A run is a schedule

`Link.run` takes turns with its sender in one fixed way: the sender goes on after every item of a
stream that does not wait, until it has sent all that is queued or a send fails.  Turn by turn, this
is a schedule, and the number of turns that `Link.run` allows itself is never used up: the schedule
ends where the run has finished or something escapes from it.
-/

/-- Where a sender that goes on whenever it can comes to stand. -/
def Sender.stage : Sender → SenderStage
  | none => .absent
  | working => .waiting
  | failed => .lost

/-- How a run ends. -/
def Stage.ofEnd : Option LinkFailure → Stage
  | none => .finished
  | some failure => .escaped failure

namespace Link

/-- Where a turn leaves the run. -/
def Turn.stage : Turn → Stage
  | goOn => .ready
  | finished => .finished
  | escaped failure => .escaped failure

/-- The sender is not at work without a socket. -/
def IsAttended (link : Link) : Prop :=
  link.sender = .working → link.socket?.isSome = true

/-- Telling leaves a link attended. -/
theorem Tells.isAttended
    {link later : Link}
    (tells : Tells link later)
    (attended : link.IsAttended) :
    later.IsAttended := by
  obtain ⟨events, -, rfl⟩ := tells
  exact attended

/-- Writing does not look at the queue. -/
theorem write_queue
    (link : Link)
    (queue : List String)
    (frame : Frame) :
    { link with queue := queue }.write frame =
      ({ (link.write frame).1 with queue := queue }, (link.write frame).2) := by
  unfold write
  dsimp only
  split
  · rfl
  · split <;> rfl

end Link

namespace Schedule

open Relation.ReflTransGen

variable {link : Link} {stage : Stage}

/-- One step of the run is a schedule. -/
theorem reaches_run
    {moment later : Moment}
    (step : RunStep moment later) :
    Reaches moment later :=
  single (.run step)

/-- One step of the sender is a schedule. -/
theorem reaches_sender
    {moment later : Moment}
    (step : SenderStep moment later) :
    Reaches moment later :=
  single (.sender step)

/-!
## The sender empties the queue
-/

/-- Sending the waiting texts one after another is a schedule of the sender. -/
theorem reaches_sendAll
    (undisturbed : stage.isDismissal = false)
    (texts : List String)
    (working : link.sender = .working)
    (present : link.socket?.isSome = true) :
    Reaches
        ⟨{ link with queue := texts }, stage, .waiting⟩
        ⟨link.sendAll texts, stage, (link.sendAll texts).sender.stage⟩
      ∧ (link.sendAll texts).IsAttended := by
  -- The texts stand for what is left of the queue; the queue of the link itself is not read.
  induction texts generalizing link with
  | nil =>
      have waiting : link.sender.stage = .waiting := by rw [working]; rfl
      exact ⟨waiting ▸ .refl, fun _ => present⟩
  | cons text rest inductionHypothesis =>
      obtain ⟨socket, found⟩ := Option.isSome_iff_exists.mp present
      have taken :
          Reaches
            ⟨{ link with queue := text :: rest }, stage, .waiting⟩
            ⟨{ link with queue := rest }, stage, .holding text⟩ :=
        reaches_sender (.take undisturbed rfl found)
      have written := link.write_queue rest (link.commandFrame text)
      unfold Link.sendAll
      cases outcome : link.write (.send link.settings.commandDestination text) with
      | mk later failure? =>
          rw [Link.commandFrame, outcome] at written
          cases failure? with
          | some failure =>
              have lost :
                  Reaches
                    ⟨{ link with queue := rest }, stage, .holding text⟩
                    ⟨{ later with queue := rest, sender := .failed }, stage, .lost⟩ :=
                reaches_sender (.lose undisturbed written)
              exact ⟨taken.trans lost, by simp [Link.IsAttended]⟩
          | none =>
              have sent :
                  Reaches
                    ⟨{ link with queue := rest }, stage, .holding text⟩
                    ⟨{ later with queue := rest }, stage, .waiting⟩ :=
                (reaches_sender (.send undisturbed written)).trans
                  (reaches_sender (.comeBack undisturbed))
              have kept : later.sender = link.sender ∧ later.socket?.isSome = true := by
                cases Link.writes_of_eq outcome with
                | succeeds _ _ =>
                    exact ⟨rfl, rfl⟩
              obtain ⟨rested, attended⟩ := inductionHypothesis (kept.1.trans working) kept.2
              exact ⟨(taken.trans sent).trans rested, attended⟩

/-- Sending all that waits is a schedule of the sender. -/
theorem reaches_flush
    (stage : Stage)
    (undisturbed : stage.isDismissal = false)
    (attended : link.IsAttended) :
    Reaches ⟨link, stage, link.sender.stage⟩ ⟨link.flush, stage, link.flush.sender.stage⟩
      ∧ link.flush.IsAttended := by
  unfold Link.flush
  split
  · next working =>
    have waiting : link.sender.stage = .waiting := by rw [working]; rfl
    rw [waiting]
    exact reaches_sendAll undisturbed link.queue working (attended working)
  · exact ⟨.refl, attended⟩

/-!
## The run listens
-/

/-- A sender that is told to end does so. -/
theorem reaches_gone
    (link : Link)
    (stage : Stage)
    (dismissed : stage.isDismissal = true) :
    ∃ gone : SenderStage,
      gone.isGone = true ∧ Reaches ⟨link, stage, link.sender.stage⟩ ⟨link, stage, gone⟩ := by
  cases link.sender with
  | none =>
      exact ⟨.absent, rfl, .refl⟩
  | working =>
      exact ⟨.cancelled, rfl, reaches_sender (.cancel dismissed rfl)⟩
  | failed =>
      exact ⟨.lost, rfl, .refl⟩

/-- What a link does when it is asked to disconnect, up to where it waits for its sender. -/
theorem reaches_parted
    (link : Link)
    (items : List StreamItem) :
    ∃ left : Link,
      Reaches
          ⟨link, .listening (.disconnect :: items), link.sender.stage⟩
          ⟨left, .parted items, left.sender.stage⟩
        ∧ link.disconnect = { left.stopSender.closeSocket with state := .disconnected } := by
  cases connected : link.isConnected with
  | false =>
      refine ⟨{ link with running := false }, reaches_run (.partUnseen connected), ?_⟩
      simp only [Link.disconnect, connected]
      rfl
  | true =>
      cases outcome :
          { link with running := false }.write (.disconnect (identifier link.nextId)) with
      | mk written failure? =>
          have sameStage : written.sender.stage = link.sender.stage := by
            cases Link.writes_of_eq outcome <;> rfl
          refine ⟨{ written with nextId := link.nextId + 1 }, ?_, ?_⟩
          · simp only [sameStage]
            exact (reaches_run (.part connected)).trans (reaches_run (.farewell outcome))
          · simp only [Link.disconnect, connected, outcome]
            rfl

/-- Disconnecting within a stream is a schedule. -/
theorem reaches_disconnect
    (link : Link)
    (items : List StreamItem) :
    Reaches
        ⟨link, .listening (.disconnect :: items), link.sender.stage⟩
        ⟨link.disconnect, .listening items, link.disconnect.sender.stage⟩
      ∧ link.disconnect.IsAttended := by
  obtain ⟨left, parted, told⟩ := reaches_parted link items
  obtain ⟨sender, gone, ended⟩ := reaches_gone left (.dismissing items) rfl
  have absent : link.disconnect.sender = .none := by
    obtain ⟨stops, -, stopped⟩ := left.stopSender_tells
    obtain ⟨closes, -, closed⟩ := left.stopSender.closeSocket_tells
    rw [told, closed, stopped]
  refine ⟨?_, by simp [Link.IsAttended, absent]⟩
  have dismissing := parted.trans (reaches_run .dismiss)
  have leaving := (dismissing.trans ended).trans (reaches_run (.dismissed gone))
  rw [absent, told]
  exact leaving.trans (reaches_run .leave)

/-- The run listens up to the end of the stream, or to the item that ends it. -/
theorem reaches_listenTo
    (listener? : Option Listener)
    (link : Link)
    (items : List StreamItem)
    (attended : link.IsAttended) :
    ∃ left,
      left.head? = (link.listenTo listener? items).2.map .fault
        ∧ Reaches
          ⟨link, .listening items, link.sender.stage⟩
          ⟨(link.listenTo listener? items).1, .listening left,
            (link.listenTo listener? items).1.sender.stage⟩ := by
  -- After each item the sender goes on, so that it is attended again when the rest is heard.
  induction items generalizing link with
  | nil =>
      exact ⟨[], rfl, .refl⟩
  | cons item rest inductionHypothesis =>
      cases item with
      | message message =>
          have handled :
              Reaches
                ⟨link, .listening (.message message :: rest), link.sender.stage⟩
                ⟨link.handle listener? message, .listening rest,
                  (link.handle listener? message).sender.stage⟩ := by
            rw [(link.tells_handle listener? message).sender]
            exact reaches_run .message
          have attended := (link.tells_handle listener? message).isAttended attended
          obtain ⟨flushed, attended⟩ := reaches_flush (.listening rest) rfl attended
          obtain ⟨left, stops, rested⟩ := inductionHypothesis _ attended
          exact ⟨left, stops, (handled.trans flushed).trans rested⟩
      | fault fault =>
          exact ⟨.fault fault :: rest, rfl, .refl⟩
      | publish text waits =>
          obtain ⟨sameSender, sameSocket⟩ := link.offer_fields text
          have offered :
              Reaches
                ⟨link, .listening (.publish text waits :: rest), link.sender.stage⟩
                ⟨link.offer text, .listening rest, (link.offer text).sender.stage⟩ := by
            rw [sameSender]
            exact reaches_run .publish
          have attended : (link.offer text).IsAttended := by
            simpa only [Link.IsAttended, sameSender, sameSocket] using attended
          cases waits with
          | true =>
              obtain ⟨left, stops, rested⟩ := inductionHypothesis _ attended
              exact ⟨left, stops, offered.trans rested⟩
          | false =>
              obtain ⟨flushed, attended⟩ := reaches_flush (.listening rest) rfl attended
              obtain ⟨left, stops, rested⟩ := inductionHypothesis _ attended
              exact ⟨left, stops, (offered.trans flushed).trans rested⟩
      | disconnect =>
          obtain ⟨parted, attended⟩ := reaches_disconnect link rest
          obtain ⟨flushed, attended⟩ := reaches_flush (.listening rest) rfl attended
          obtain ⟨left, stops, rested⟩ := inductionHypothesis _ attended
          exact ⟨left, stops, (parted.trans flushed).trans rested⟩

/-- An unforeseen end of a stream closes the socket and pauses. -/
theorem noteEnd_of_ne
    (link : Link)
    {fault : Fault}
    (unforeseen : fault ≠ .closed) :
    link.noteEnd (some fault) = (link.noteBreak fault).closeSocket.record (.slept 1) := by
  cases fault with
  | closed =>
      exact absurd rfl unforeseen
  | _ =>
      rfl

theorem noteEnd_sender
    (link : Link)
    (fault? : Option Fault) :
    (link.noteEnd fault?).sender = link.sender := by
  match fault? with
  | none =>
      obtain ⟨events, -, told⟩ := link.tells_noteEnd_none
      rw [told]
  | some fault =>
      by_cases closed : fault = .closed
      · subst closed
        rfl
      · obtain ⟨events, -, told⟩ := (link.noteBreak fault).closeSocket_tells
        rw [noteEnd_of_ne link closed, told]
        rfl

/-- However a stream ends, the run comes to wait for its sender. -/
theorem reaches_stopping
    (link : Link)
    {items : List StreamItem}
    {fault? : Option Fault}
    (ends : items.head? = fault?.map .fault) :
    Reaches
      ⟨link, .listening items, link.sender.stage⟩
      ⟨link.noteEnd fault?, .stopping, (link.noteEnd fault?).sender.stage⟩ := by
  rw [noteEnd_sender]
  cases items with
  | nil =>
      cases fault? with
      | none =>
          exact reaches_run .streamEnds
      | some fault =>
          simp at ends
  | cons item rest =>
      cases fault? with
      | none =>
          simp at ends
      | some fault =>
          obtain rfl : item = .fault fault := by simpa using ends
          by_cases closed : fault = .closed
          · subst closed
            exact reaches_run .streamCloses
          · rw [noteEnd_of_ne link closed]
            exact ((reaches_run (.streamBreaks closed)).trans (reaches_run .pause)).trans
              (reaches_run .resume)

/-- When the sender has ended, the run is about to connect again or to finish. -/
theorem reaches_ready
    (link : Link) :
    Reaches
      ⟨link, .stopping, link.sender.stage⟩
      ⟨if link.stopSender.running then
          { link.stopSender with state := .reconnecting, socket? := none }
        else link.stopSender,
        .ready, .absent⟩ := by
  obtain ⟨sender, gone, ended⟩ := reaches_gone link .stopping rfl
  rw [Link.stopSender_running]
  split
  · next on =>
    exact ended.trans (reaches_run (.reconnect gone on))
  · next off =>
    exact ended.trans (reaches_run (.wind gone (by simpa using off)))

/-- Listening to a stream is a schedule. -/
theorem reaches_listen
    (listener? : Option Listener)
    (on : link.running = true)
    (connected : link.isConnected = true) :
    Reaches ⟨link, .ready, .absent⟩ ⟨link.listen listener?, .ready, .absent⟩ := by
  have present : link.socket?.isSome = true := by
    simp only [Link.isConnected, Bool.and_eq_true] at connected
    exact connected.2
  have begun :
      Reaches
        ⟨link, .ready, .absent⟩
        ⟨{ link with sender := .working }, .listening link.stream, .waiting⟩ :=
    reaches_run (.listen on connected)
  obtain ⟨left, ends, heard⟩ :=
    reaches_listenTo listener? { link with sender := .working } link.stream fun _ => present
  exact ((begun.trans heard).trans (reaches_stopping _ ends)).trans (reaches_ready _)

/-!
## The run connects
-/

/-- Where an attempt to connect leads. -/
def dialled : Link × Option LinkFailure → Moment
  | (link, none) => ⟨{ link with state := .connected, failures := 0 }, .ready, .absent⟩
  | (link, some failure) =>
      if failure.isExpected then ⟨link.noteFailure failure, .abandoning, .absent⟩
      else ⟨link, .escaped failure, .absent⟩

/-- An expected failure leads to the attempt being abandoned. -/
theorem dialled_of_expected
    {failure : LinkFailure}
    (expected : failure.isExpected = true) :
    dialled (link, some failure) = ⟨link.noteFailure failure, .abandoning, .absent⟩ :=
  if_pos expected

/-- An unexpected failure escapes. -/
theorem dialled_of_unexpected
    {failure : LinkFailure}
    (unexpected : failure.isExpected = false) :
    dialled (link, some failure) = ⟨link, .escaped failure, .absent⟩ :=
  if_neg (by simp [unexpected])

/-- A stage of an attempt that fails ends the attempt. -/
theorem reaches_failure
    {later : Link}
    {dial : Dial}
    {failure : LinkFailure}
    (fails : link.dial dial = (later, .error failure)) :
    Reaches ⟨link, .dialling dial, .absent⟩ (dialled (later, some failure)) := by
  cases expected : failure.isExpected with
  | true =>
      rw [dialled_of_expected expected]
      exact reaches_run (.fail fails expected)
  | false =>
      rw [dialled_of_unexpected expected]
      exact reaches_run (.escape fails expected)

/-- A stage of an attempt that succeeds leads to the next one. -/
theorem reaches_dial
    {later : Link}
    {dial next : Dial}
    (succeeds : link.dial dial = (later, .ok (some next))) :
    Reaches ⟨link, .dialling dial, .absent⟩ ⟨later, .dialling next, .absent⟩ :=
  reaches_run (.dial succeeds)

/-- A frame of the handshake is written, and if that succeeds the attempt goes on. -/
theorem reaches_write
    (link : Link)
    (dial next : Dial)
    (frame : Frame)
    (writes : link.dial dial = link.writeThen frame next)
    (goOn : Link → Link × Option LinkFailure)
    (goesOn : ∀ later : Link, Reaches ⟨later, .dialling next, .absent⟩ (dialled (goOn later))) :
    Reaches
      ⟨link, .dialling dial, .absent⟩
      (dialled
        (match link.write frame with
        | (later, some failure) => (later, some failure)
        | (later, none) => goOn later)) := by
  unfold Link.writeThen at writes
  cases outcome : link.write frame with
  | mk later failure? =>
      rw [outcome] at writes
      cases failure? with
      | some failure =>
          exact reaches_failure writes
      | none =>
          exact (reaches_dial writes).trans (goesOn later)

theorem reaches_subscribed
    (link : Link) :
    Reaches ⟨link, .dialling .subscribed, .absent⟩ (dialled (link, none)) :=
  reaches_run (.connect rfl)

theorem reaches_subscribing
    (link : Link) :
    Reaches
      ⟨link, .dialling .subscribing, .absent⟩
      (dialled (link.write (.subscribe link.settings.worldTopic link.subscription))) := by
  have written :=
    reaches_write link .subscribing .subscribed _ rfl (fun later => (later, none))
      reaches_subscribed
  cases outcome : link.write (.subscribe link.settings.worldTopic link.subscription) with
  | mk later failure? =>
      rw [outcome] at written
      cases failure? <;> exact written

/-- Subscribe, unless the handshake failed. -/
def andSubscribe : Link × Option LinkFailure → Link × Option LinkFailure
  | (link, some failure) => (link, some failure)
  | (link, none) => link.write (.subscribe link.settings.worldTopic link.subscription)

/-- Waiting for the agreement on a socket is a schedule. -/
theorem reaches_awaiting_socket
    (link : Link)
    (socket : Socket)
    (handshake : List HandshakeItem) :
    Reaches
      ⟨{ link with socket? := some { socket with handshake } }, .dialling .awaiting, .absent⟩
      (dialled
        (andSubscribe
          ({ link with
              socket? := some { socket with handshake := (Link.awaitConnected handshake).1 } },
            (Link.awaitConnected handshake).2))) := by
  induction handshake with
  | nil =>
      exact reaches_failure rfl
  | cons item rest inductionHypothesis =>
      cases item with
      | fault fault =>
          exact reaches_failure rfl
      | message message =>
          cases judged : Link.judge message with
          | error failure =>
              have fails :
                  { link with
                      socket? := some { socket with handshake := .message message :: rest } }.dial
                      .awaiting =
                    ({ link with socket? := some { socket with handshake := rest } },
                      .error failure) := by
                simp only [Link.dial, Link.hear, judged]
                rfl
              simp only [Link.awaitConnected, judged]
              exact reaches_failure fails
          | ok answered =>
              have heard :
                  { link with
                      socket? := some { socket with handshake := .message message :: rest } }.dial
                      .awaiting =
                    ({ link with socket? := some { socket with handshake := rest } },
                      .ok (some (if answered then .subscribing else .awaiting))) := by
                simp only [Link.dial, Link.hear, judged]
                rfl
              have went := reaches_dial heard
              simp only [Link.awaitConnected, judged]
              cases answered with
              | true =>
                  exact went.trans (reaches_subscribing _)
              | false =>
                  exact went.trans inductionHypothesis

theorem reaches_awaiting
    (link : Link) :
    Reaches
      ⟨link, .dialling .awaiting, .absent⟩
      (dialled (andSubscribe link.receiveConnected)) := by
  unfold Link.receiveConnected
  split
  · next missing =>
    have fails : link.dial .awaiting = (link, .error .notConnected) := by
      simp only [Link.dial, Link.hear, missing]
    exact reaches_failure fails
  · next socket present =>
    have awaited := reaches_awaiting_socket link socket socket.handshake
    rw [← present] at awaited
    exact awaited

theorem reaches_greeting
    (link : Link)
    (host : String)
    (found : Address.host link.settings.url = .ok host) :
    Reaches ⟨link, .dialling (.greeting host), .absent⟩ (dialled link.shakeHands) := by
  have written :=
    reaches_write link (.greeting host) .awaiting _ rfl
      (fun later => andSubscribe later.receiveConnected) reaches_awaiting
  unfold Link.shakeHands
  rw [found]
  cases outcome : link.write (.connect (if host.isEmpty then "localhost" else host) 0) with
  | mk later failure? =>
      rw [outcome] at written
      cases failure? with
      | some failure =>
          simpa only [outcome] using written
      | none =>
          simp only [outcome]
          cases received : later.receiveConnected with
          | mk last failure? =>
              dsimp only at written
              rw [received] at written
              cases failure? <;> exact written

/-- An attempt takes the next outcome, and if that is a socket it shakes hands. -/
theorem reaches_opening
    (link : Link) :
    Reaches
      ⟨link, .dialling .opening, .absent⟩
      (dialled
        (match link.attempts with
        | [] => (link, some (.fault .refused))
        | .fault fault :: attempts => ({ link with attempts }, some (.fault fault))
        | .opened socket :: attempts =>
            { link with attempts, socket? := some socket }.shakeHands)) := by
  split
  · next none =>
    exact reaches_failure (by simp only [Link.dial, none])
  · next fault attempts used =>
    exact reaches_failure (by simp only [Link.dial, used])
  · next socket attempts used =>
    cases found : Address.host link.settings.url with
    | error error =>
        have fails :
            link.dial .opening =
              ({ link with attempts, socket? := some socket }, .error (.badAddress error)) := by
          simp only [Link.dial, used, found]
        simpa only [Link.shakeHands, found] using reaches_failure fails
    | ok host =>
        have opened :
            link.dial .opening =
              ({ link with attempts, socket? := some socket }, .ok (some (.greeting host))) := by
          simp only [Link.dial, used, found]
        exact (reaches_dial opened).trans (reaches_greeting _ host found)

theorem reaches_establish
    (link : Link) :
    Reaches ⟨link, .dialling .calling, .absent⟩ (dialled link.establish) := by
  cases late : link.settings.connectTimeout.le 0 with
  | true =>
      have fails : link.dial .calling = (link, .error (.fault .timeout)) := by
        simp only [Link.dial, late, if_true]
      simpa only [Link.establish, Link.openSocket, late, if_true] using reaches_failure fails
  | false =>
      have called :
          link.dial .calling =
            (link.record (.called link.settings.url link.settings.heartbeatInterval),
              .ok (some .opening)) := by
        simp only [Link.dial, late, Bool.false_eq_true, if_false]
      have opened := (reaches_dial called).trans (reaches_opening _)
      simp only [Link.establish, Link.openSocket, late, Bool.false_eq_true, if_false]
      cases used : link.attempts with
      | nil =>
          simpa only [Link.record, used] using opened
      | cons attempt attempts =>
          cases attempt <;> simpa only [Link.record, used] using opened

/-!
## The run takes its turns
-/

/-- A turn of a run is a schedule. -/
theorem reaches_turn
    (listener? : Option Listener)
    (link : Link) :
    Reaches
      ⟨link, .ready, .absent⟩
      ⟨(link.turn listener?).1, (link.turn listener?).2.stage, .absent⟩ := by
  have turns := link.turn_turns listener?
  generalize link.turn listener? = result at turns ⊢
  cases turns with
  | finished off =>
      exact reaches_run (.finish off)
  | listened on connected =>
      exact reaches_listen listener? on connected
  | @connected later on apart established =>
      have dialled := (reaches_run (.call on apart)).trans (reaches_establish _)
      rw [established] at dialled
      have made := Link.establishes established
      have connected : { later with state := .connected, failures := 0 }.isConnected = true :=
        made.present rfl
      exact dialled.trans (reaches_listen listener? (made.running.trans on) connected)
  | escaped on apart established unexpected =>
      have dialled := (reaches_run (.call on apart)).trans (reaches_establish _)
      rw [established, dialled_of_unexpected unexpected] at dialled
      exact dialled
  | gaveUp on apart established expected exhausted =>
      have dialled := (reaches_run (.call on apart)).trans (reaches_establish _)
      rw [established, dialled_of_expected expected] at dialled
      exact dialled.trans (reaches_run (.giveUp exhausted))
  | rested on apart established expected patient =>
      have dialled := (reaches_run (.call on apart)).trans (reaches_establish _)
      rw [established, dialled_of_expected expected] at dialled
      exact (dialled.trans (reaches_run (.rest patient))).trans (reaches_run .wake)

/-- A whole run is a schedule. -/
theorem reaches_runFor
    (listener? : Option Listener)
    (turns : Nat)
    (link : Link)
    (enough : link.turnsLeft ≤ turns) :
    Reaches
      ⟨link, .ready, .absent⟩
      ⟨(link.runFor listener? turns).1, .ofEnd (link.runFor listener? turns).2, .absent⟩ := by
  induction turns generalizing link with
  | zero =>
      exact absurd enough (Nat.not_le_of_lt link.turnsLeft_pos)
  | succ turns inductionHypothesis =>
      have turned := reaches_turn listener? link
      unfold Link.runFor
      cases outcome : link.turn listener? with
      | mk later turn =>
          rw [outcome] at turned
          cases turn with
          | goOn =>
              have fewer := Link.turnsLeft_turn outcome
              exact turned.trans (inductionHypothesis later (by omega))
          | finished =>
              exact turned
          | escaped failure =>
              exact turned

/-- A run is a schedule, up to its end. -/
theorem reaches_end
    (listener? : Option Listener)
    (link : Link) :
    Reaches
      (Moment.start link)
      ⟨(link.run listener?).1, .ofEnd (link.run listener?).2, .absent⟩ :=
  reaches_runFor listener? _ { link with running := true } (Link.turnsLeft_le_turnLimit _)

end Schedule

end SceneEditor
