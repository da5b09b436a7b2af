import Mathlib.Data.List.Induction
import SceneEditor.Proofs.Link.RunSchedule

namespace SceneEditor

/-!
# From the queue to the server

A text that is accepted waits in the queue until the sender takes it.  A text leaves the queue at
its front, and either it is written or it is lost; and when a connection is asked for, none is left.
So the texts that are written are a part of those that were accepted, in their order, each once, and
on the connection that was up when they were accepted.
-/

open List

namespace LinkEvent

/-- The texts that were written as commands, in order. -/
def sent (events : List LinkEvent) : List String :=
  events.filterMap sent?

/-- The texts that were published and accepted, in order. -/
def accepted (events : List LinkEvent) : List String :=
  events.filterMap accepted?

/-- The texts that were published and refused, in order. -/
def refused (events : List LinkEvent) : List String :=
  events.filterMap refused?

/-- What is sent in a longer trace is sent in its parts, one behind the other. -/
@[simp] theorem sent_append
    (events more : List LinkEvent) :
    sent (events ++ more) = sent events ++ sent more :=
  filterMap_append

/-- What is accepted in a longer trace is accepted in its parts, one behind the other. -/
@[simp] theorem accepted_append
    (events more : List LinkEvent) :
    accepted (events ++ more) = accepted events ++ accepted more :=
  filterMap_append

end LinkEvent

open LinkEvent

/-- What an event does to the texts that wait. -/
inductive Moves : LinkEvent → List String → List String → Prop
  | quiet
      (quiet : event.isQuiet = true) :
      Moves event texts texts
  | call :
      Moves (.called url heartbeat) [] []
  | accept :
      Moves (.published text true) texts (texts ++ [text])
  | send :
      Moves (.wrote (.send destination text)) (text :: texts) texts

/-- The texts that wait after some events, if others waited before them; any may get lost. -/
inductive Waits (queued : List String) : List LinkEvent → List String → Prop
  | start :
      Waits queued [] queued
  | move
      (waits : Waits queued events texts)
      (moves : Moves event texts left) :
      Waits queued (events ++ [event]) left
  | lose
      (waits : Waits queued events texts)
      (fewer : left <+ texts) :
      Waits queued events left

namespace Moves

/-- What is sent and what still waits was waiting or is accepted, in order. -/
theorem sublist
    {event : LinkEvent}
    {texts left : List String}
    (moves : Moves event texts left) :
    sent [event] ++ left <+ texts ++ accepted [event] := by
  cases moves with
  | quiet quiet =>
      simp [sent, accepted, sent?_of_isQuiet quiet, accepted?_of_isQuiet quiet]
  | call =>
      exact .slnil
  | accept =>
      simp [sent, accepted, sent?, accepted?]
  | send =>
      simp [sent, accepted, sent?, Frame.send]

end Moves

namespace Waits

variable {queued texts : List String} {events : List LinkEvent}

theorem trans
    {between : List String}
    {more : List LinkEvent}
    (first : Waits queued events between)
    (second : Waits between more texts) :
    Waits queued (events ++ more) texts := by
  induction second with
  | start =>
      simpa using first
  | move _ moves inductionHypothesis =>
      rw [← append_assoc]
      exact inductionHypothesis.move moves
  | lose _ fewer inductionHypothesis =>
      exact inductionHypothesis.lose fewer

/-- Quiet events leave the waiting texts as they are. -/
theorem of_quiet
    (quiet : ∀ event ∈ events, event.isQuiet = true) :
    Waits queued events queued := by
  induction events using List.reverseRecOn with
  | nil =>
      exact .start
  | append_singleton earlier event inductionHypothesis =>
      refine .move (inductionHypothesis ?_) (.quiet (quiet event (by simp)))
      exact fun other member => quiet other (by simp [member])

/-- What was written and what waits are a part of what waited and what was accepted. -/
theorem sublist
    (waits : Waits queued events texts) :
    sent events ++ texts <+ queued ++ accepted events := by
  induction waits with
  | start =>
      simp [sent, accepted]
  | @move earlier before event after _ moves inductionHypothesis =>
      calc sent (earlier ++ [event]) ++ after
          = sent earlier ++ (sent [event] ++ after) := by simp
        _ <+ sent earlier ++ (before ++ accepted [event]) :=
            (Sublist.refl _).append moves.sublist
        _ = sent earlier ++ before ++ accepted [event] := by simp
        _ <+ queued ++ accepted earlier ++ accepted [event] :=
            inductionHypothesis.append (.refl _)
        _ = queued ++ accepted (earlier ++ [event]) := by simp
  | lose _ fewer inductionHypothesis =>
      exact ((Sublist.refl _).append fewer).trans inductionHypothesis

/-- Where the last event of a list stands if the list is cut. -/
theorem snoc_eq_append
    {earlier before after : List LinkEvent}
    {event : LinkEvent}
    (cut : earlier ++ [event] = before ++ after) :
    (after = [] ∧ before = earlier ++ [event])
      ∨ ∃ inner, after = inner ++ [event] ∧ earlier = before ++ inner := by
  rcases eq_nil_or_concat after with rfl | ⟨inner, last, rfl⟩
  · exact .inl ⟨rfl, by simpa using cut.symm⟩
  · rw [concat_eq_append, ← append_assoc] at cut
    obtain ⟨same, lastSame⟩ := append_inj' cut rfl
    cases lastSame
    exact .inr ⟨inner, concat_eq_append .., same⟩

/-- What waits after events waited in some way after the first of them. -/
theorem of_append
    {before after : List LinkEvent}
    (waits : Waits queued events texts)
    (cut : events = before ++ after) :
    ∃ between, Waits queued before between := by
  induction waits generalizing after with
  | start =>
      obtain ⟨rfl, -⟩ := append_eq_nil_iff.mp cut.symm
      exact ⟨_, .start⟩
  | move waits moves inductionHypothesis =>
      rcases snoc_eq_append cut with ⟨-, rfl⟩ | ⟨inner, -, same⟩
      · exact ⟨_, waits.move moves⟩
      · exact inductionHypothesis same
  | lose _ _ inductionHypothesis =>
      exact inductionHypothesis cut

/-- What waits after a connection was asked for was accepted since. -/
theorem after_call
    {url : String}
    {heartbeat : Num}
    {before after : List LinkEvent}
    (waits : Waits queued events texts)
    (cut : events = before ++ .called url heartbeat :: after) :
    Waits [] after texts := by
  -- The call is the last event, and then nothing waits, or it is one of those before.
  induction waits generalizing after with
  | start =>
      simp at cut
  | move waits moves inductionHypothesis =>
      rcases snoc_eq_append cut with ⟨missing, -⟩ | ⟨inner, tail, same⟩
      · simp at missing
      · cases inner with
        | nil =>
            obtain ⟨rfl, rfl⟩ := by simpa using tail
            cases moves with
            | quiet quiet =>
                simp [isQuiet] at quiet
            | call =>
                exact .start
        | cons first inner =>
            obtain ⟨rfl, rfl⟩ := by simpa using tail
            exact (inductionHypothesis same).move moves
  | lose _ fewer inductionHypothesis =>
      exact (inductionHypothesis cut).lose fewer

end Waits

/-!
## What a step does to the texts that wait
-/

namespace Link

/-- A link added quiet events to its trace and left its queue as it was. -/
def Quietly (link later : Link) : Prop :=
  ∃ events,
    (∀ event ∈ events, event.isQuiet = true)
      ∧ later.trace = link.trace ++ events
      ∧ later.queue = link.queue

/-- A link that only tells does so quietly. -/
theorem Tells.quietly
    {link later : Link}
    (tells : Tells link later) :
    Quietly link later := by
  obtain ⟨events, quiet, rfl⟩ := tells
  exact ⟨events, quiet, rfl, rfl⟩

namespace Quietly

theorem refl
    (link : Link) :
    Quietly link link :=
  (Tells.refl link).quietly

theorem trans
    {link between later : Link}
    (first : Quietly link between)
    (second : Quietly between later) :
    Quietly link later := by
  obtain ⟨events, quiet, trace, queue⟩ := first
  obtain ⟨more, moreQuiet, moreTrace, moreQueue⟩ := second
  refine ⟨events ++ more, ?_, by rw [moreTrace, trace, append_assoc], moreQueue.trans queue⟩
  intro event member
  rcases mem_append.mp member with early | late
  · exact quiet event early
  · exact moreQuiet event late

/-- Closing a socket touches no text. -/
theorem closeSocket
    (link : Link) :
    Quietly link link.closeSocket :=
  link.closeSocket_tells.quietly

theorem write
    {link later : Link}
    {frame : Frame}
    {failure? : Option LinkFailure}
    (notText : frame.command ≠ "SEND")
    (written : link.write frame = (later, failure?)) :
    Quietly link later := by
  cases writes_of_eq written with
  | missing _ =>
      exact .refl link
  | fails _ _ =>
      exact ⟨[], by simp, by simp, rfl⟩
  | succeeds _ _ =>
      exact ⟨[.wrote frame], by simpa [isQuiet] using notText, rfl, rfl⟩

end Quietly

end Link

/-- There is no stream to listen to. -/
def Stage.isBetween : Stage → Bool
  | ready | dialling _ | abandoning | resting | finished => true
  | _ => false

/-- The link is known not to be connected. -/
def Stage.isApart : Stage → Bool
  | dialling _ | abandoning | resting => true
  | _ => false

namespace Moment

/-- The texts that were accepted, and neither written nor lost. -/
def pending (moment : Moment) : List String :=
  moment.sender.inFlight ++ moment.link.queue

/-- Between two streams there is no sender, and no text waits for a connection to come. -/
structure Orderly (moment : Moment) : Prop where
  alone : moment.stage.isBetween = true → moment.sender = .absent
  settled :
    moment.stage.isBetween = true → moment.link.isConnected = false → moment.link.queue = []
  apart : moment.stage.isApart = true → moment.link.state ≠ .connected

/-- What happened since a moment accounts for the texts that wait. -/
def Flows (moment later : Moment) : Prop :=
  ∃ events,
    later.link.trace = moment.link.trace ++ events
      ∧ Waits moment.pending events later.pending

namespace Flows

theorem refl
    (moment : Moment) :
    Flows moment moment :=
  ⟨[], by simp, .start⟩

theorem trans
    {moment between later : Moment}
    (first : Flows moment between)
    (second : Flows between later) :
    Flows moment later := by
  obtain ⟨events, trace, waits⟩ := first
  obtain ⟨more, moreTrace, moreWaits⟩ := second
  exact ⟨events ++ more, by rw [moreTrace, trace, append_assoc], waits.trans moreWaits⟩

variable {link later : Link} {stage next : Stage} {sender follower : SenderStage}

/-- A change that touches no text lets the texts flow. -/
theorem of_quietly
    (quietly : link.Quietly later)
    (sameFlight : follower.inFlight = sender.inFlight) :
    Flows ⟨link, stage, sender⟩ ⟨later, next, follower⟩ := by
  obtain ⟨events, quiet, trace, queue⟩ := quietly
  refine ⟨events, trace, ?_⟩
  simp only [pending, queue, sameFlight]
  exact .of_quiet quiet

/-- Texts get lost, and nothing else happens that concerns a text. -/
theorem of_loss
    {left : List String}
    (quietly : Link.Quietly { link with queue := left } later)
    (fewer : follower.inFlight ++ left <+ sender.inFlight ++ link.queue) :
    Flows ⟨link, stage, sender⟩ ⟨later, next, follower⟩ := by
  obtain ⟨events, quiet, trace, queue⟩ := quietly
  refine ⟨events, trace, ?_⟩
  simp only [pending, queue]
  exact (Waits.of_quiet quiet).lose fewer

/-- A sender that is stopped takes its texts with it. -/
theorem of_stop
    (quietly : Link.Quietly link.stopSender later) :
    Flows ⟨link, stage, sender⟩ ⟨later, next, .absent⟩ := by
  have stopped : Link.Quietly { link with queue := [] } link.stopSender :=
    link.stopSender_tells.quietly
  exact .of_loss (stopped.trans quietly) (nil_sublist _)

/-- In an attempt to connect no text waits, so that a connection may be asked for. -/
theorem of_dialled
    {between : Link}
    (dialled : link.Dialled between)
    (quietly : between.Quietly later)
    (empty : link.queue = []) :
    Flows ⟨link, stage, .absent⟩ ⟨later, next, .absent⟩ := by
  obtain ⟨events, quietOrCall, trace⟩ := dialled.trace
  have waits : Waits [] events [] := by
    clear trace
    induction events using List.reverseRecOn with
    | nil =>
        exact .start
    | append_singleton earlier event inductionHypothesis =>
        have earlierWaits :=
          inductionHypothesis fun other member => quietOrCall other (by simp [member])
        refine earlierWaits.move ?_
        rcases quietOrCall event (by simp) with quiet | call
        · exact .quiet quiet
        · cases event with
          | called url heartbeat =>
              exact .call
          | _ =>
              simp [isCall] at call
  have flows : Flows ⟨link, stage, .absent⟩ ⟨between, stage, .absent⟩ := by
    refine ⟨events, trace, ?_⟩
    simpa only [pending, SenderStage.inFlight, nil_append, dialled.queue, empty] using waits
  exact flows.trans (of_quietly quietly rfl)

/-- A text that is sent stood in front of all that wait. -/
theorem of_send
    {text : String}
    (queue : later.queue = link.queue)
    (trace : later.trace = link.trace ++ [.wrote (link.commandFrame text)]) :
    Flows ⟨link, stage, .holding text⟩ ⟨later, stage, .sent⟩ := by
  refine ⟨_, trace, ?_⟩
  simp only [pending, SenderStage.inFlight, queue]
  exact .move .start .send

/-- A text that is offered waits behind the others, or is refused. -/
theorem of_offer
    (text : String) :
    Flows ⟨link, stage, sender⟩ ⟨link.offer text, stage, sender⟩ := by
  unfold Link.offer Link.publish
  split
  · refine ⟨[.published text true], rfl, ?_⟩
    simp only [pending, Link.record, ← append_assoc]
    exact .move .start .accept
  · exact of_quietly ((Link.Tells.note _ _ _).trans (.record _ rfl)).quietly rfl

end Flows

namespace Orderly

variable {link later : Link} {stage : Stage} {sender : SenderStage}

/-- A run starts in order from a link on which no text waits for a connection. -/
theorem start
    {link : Link}
    (settled : link.isConnected = false → link.queue = []) :
    Orderly (Moment.start link) where
  alone _ := rfl
  settled _ := settled
  apart := by simp [Moment.start, Stage.isApart]

theorem isConnected_of_state
    (apart : link.state ≠ .connected) :
    link.isConnected = false := by
  simp [Link.isConnected, apart]

/-- While the run listens there is nothing to be kept in order. -/
theorem of_listening
    (open_ : stage.isBetween = false)
    (near : stage.isApart = false) :
    Orderly ⟨link, stage, sender⟩ where
  alone between := by simp [open_] at between
  settled between := by simp [open_] at between
  apart apart := by simp [near] at apart

theorem of_empty
    (empty : link.queue = [])
    (apart : stage.isApart = true → link.state ≠ .connected) :
    Orderly ⟨link, stage, .absent⟩ where
  alone _ := rfl
  settled _ _ := empty
  apart := apart

/-- In an attempt to connect nothing waits, and there is no sender. -/
theorem idle
    (orderly : Orderly ⟨link, stage, sender⟩)
    (between : stage.isBetween = true)
    (apart : stage.isApart = true) :
    link.queue = [] ∧ sender = .absent :=
  ⟨orderly.settled between (isConnected_of_state (orderly.apart apart)), orderly.alone between⟩

theorem runStep
    {moment later : Moment}
    (orderly : moment.Orderly)
    (step : Schedule.RunStep moment later) :
    later.Orderly := by
  cases step with
  | finish off =>
      exact ⟨orderly.alone, orderly.settled, by simp [Stage.isApart]⟩
  | call on apart =>
      obtain rfl := orderly.alone rfl
      exact .of_empty (orderly.settled rfl apart) (by simp)
  | dial dialled =>
      obtain ⟨empty, rfl⟩ := orderly.idle rfl rfl
      have kept := Link.Dialled.of_dial dialled
      exact .of_empty (kept.queue.trans empty) fun _ => kept.state ▸ orderly.apart rfl
  | connect dialled =>
      obtain ⟨empty, rfl⟩ := orderly.idle rfl rfl
      have kept := Link.Dialled.of_dial dialled
      exact .of_empty (kept.queue.trans empty) (by simp [Stage.isApart])
  | fail dialled expected =>
      obtain ⟨empty, rfl⟩ := orderly.idle rfl rfl
      have kept := Link.Dialled.of_dial dialled
      exact .of_empty (kept.queue.trans empty) fun _ => kept.state ▸ orderly.apart rfl
  | giveUp exhausted =>
      obtain ⟨empty, rfl⟩ := orderly.idle rfl rfl
      exact .of_empty ((Link.closeSocket_queue _).trans empty) (by simp [Stage.isApart])
  | rest patient =>
      obtain ⟨empty, rfl⟩ := orderly.idle rfl rfl
      refine .of_empty ((Link.closeSocket_queue _).trans empty) fun _ => ?_
      simp [Link.abandon, Link.record]
  | wake =>
      obtain ⟨empty, rfl⟩ := orderly.idle rfl rfl
      exact .of_empty empty (by simp [Stage.isApart])
  | reconnect gone on =>
      exact .of_empty (Link.stopSender_queue _) (by simp [Stage.isApart])
  | wind gone off =>
      exact .of_empty (Link.stopSender_queue _) (by simp [Stage.isApart])
  | _ =>
      exact .of_listening rfl rfl

/-- The sender takes steps only while there is a stream, and leaves the run where it stands. -/
theorem senderStep
    {moment later : Moment}
    (orderly : moment.Orderly)
    (step : Schedule.SenderStep moment later) :
    later.Orderly := by
  have same : later.stage = moment.stage := by cases step <;> rfl
  have open_ : moment.stage.isBetween = false := by
    by_contra between
    have absent := orderly.alone (by simpa using between)
    cases step <;> simp_all [SenderStage.isAlive]
  have near : moment.stage.isApart = false := by
    cases stage : moment.stage <;> simp_all [Stage.isBetween, Stage.isApart]
  exact .of_listening (same ▸ open_) (same ▸ near)

/-- Offering a text keeps the order. -/
theorem offer
    (orderly : Orderly ⟨link, stage, sender⟩)
    (text : String) :
    Orderly ⟨link.offer text, stage, sender⟩ := by
  unfold Link.offer Link.publish
  split
  · next connected =>
    refine ⟨orderly.alone, fun _ later => ?_, orderly.apart⟩
    exact absurd (connected.symm.trans later) (by simp)
  · exact ⟨orderly.alone, orderly.settled, orderly.apart⟩

/-- Any step keeps the order. -/
theorem step
    {moment later : Moment}
    (orderly : moment.Orderly)
    (step : Schedule.Step moment later) :
    later.Orderly := by
  cases step with
  | run step =>
      exact orderly.runStep step
  | sender step =>
      exact orderly.senderStep step
  | publish text on =>
      exact orderly.offer text

end Orderly

namespace Flows

theorem runStep
    {moment later : Moment}
    (orderly : moment.Orderly)
    (step : Schedule.RunStep moment later) :
    Flows moment later := by
  cases step with
  | dial dialled =>
      obtain ⟨empty, rfl⟩ := orderly.idle rfl rfl
      exact .of_dialled (.of_dial dialled) (.refl _) empty
  | connect dialled =>
      obtain ⟨empty, rfl⟩ := orderly.idle rfl rfl
      exact .of_dialled (.of_dial dialled) (.refl _) empty
  | fail dialled expected =>
      obtain ⟨empty, rfl⟩ := orderly.idle rfl rfl
      exact .of_dialled (.of_dial dialled) (Link.Tells.note _ _ _).quietly empty
  | escape dialled unexpected =>
      obtain ⟨empty, rfl⟩ := orderly.idle rfl rfl
      exact .of_dialled (.of_dial dialled) (.refl _) empty
  | giveUp exhausted =>
      exact .of_quietly ((Link.Quietly.closeSocket _).trans (Link.Tells.note _ _ _).quietly) rfl
  | rest patient =>
      exact .of_quietly ((Link.Quietly.closeSocket _).trans (Link.Tells.record _ rfl).quietly) rfl
  | listen on connected =>
      obtain rfl := orderly.alone rfl
      exact .of_quietly (.refl _) rfl
  | message =>
      exact .of_quietly (Link.tells_handle _ _ _).quietly rfl
  | publish =>
      exact .of_offer _
  | farewell written =>
      have quietly := Link.Quietly.write (by simp [Frame.disconnect]) written
      exact .of_quietly quietly rfl
  | dismissed gone =>
      exact .of_stop (.refl _)
  | leave =>
      exact .of_quietly (.closeSocket _) rfl
  | streamEnds =>
      exact .of_quietly (Link.tells_noteEnd_none _).quietly rfl
  | streamCloses =>
      exact .of_quietly (Link.tells_noteEnd_closed _).quietly rfl
  | streamBreaks unforeseen =>
      exact .of_quietly (Link.tells_noteBreak _ _).quietly rfl
  | pause =>
      exact .of_quietly ((Link.Quietly.closeSocket _).trans (Link.Tells.record _ rfl).quietly) rfl
  | reconnect gone on =>
      exact .of_stop (.refl _)
  | wind gone off =>
      exact .of_stop (.refl _)
  | _ =>
      exact .of_quietly (.refl _) rfl

theorem senderStep
    {moment later : Moment}
    (step : Schedule.SenderStep moment later) :
    Flows moment later := by
  cases step with
  | take undisturbed queued present =>
      exact ⟨[], by simp, by simpa [pending, SenderStage.inFlight, queued] using .start⟩
  | strand undisturbed queued missing =>
      exact .of_loss (.refl _) (by simp [SenderStage.inFlight, queued])
  | send undisturbed written =>
      cases Link.writes_of_eq written with
      | succeeds present same =>
          exact .of_send rfl rfl
  | sendLate undisturbed missing =>
      exact .of_send rfl rfl
  | lose undisturbed failed =>
      cases Link.writes_of_eq failed with
      | missing missing =>
          exact .of_loss (.refl _) (by simp [SenderStage.inFlight])
      | fails present same =>
          exact .of_loss (.refl _) (by simp [SenderStage.inFlight])
  | cancel dismissed alive =>
      exact .of_loss (.refl _) (by simp [SenderStage.inFlight])
  | _ =>
      exact .of_quietly (.refl _) rfl

/-- Any step accounts for the texts. -/
theorem step
    {moment later : Moment}
    (orderly : moment.Orderly)
    (step : Schedule.Step moment later) :
    Flows moment later := by
  cases step with
  | run step =>
      exact .runStep orderly step
  | sender step =>
      exact .senderStep step
  | publish text on =>
      exact .of_offer text

/-- Along a schedule the texts that wait are accounted for. -/
theorem reaches
    {moment later : Moment}
    (orderly : moment.Orderly)
    (schedule : Schedule.Reaches moment later) :
    later.Orderly ∧ Flows moment later := by
  induction schedule with
  | refl =>
      exact ⟨orderly, .refl _⟩
  | tail _ step inductionHypothesis =>
      obtain ⟨laterOrderly, flows⟩ := inductionHypothesis
      exact ⟨laterOrderly.step step, flows.trans (.step laterOrderly step)⟩

end Flows

end Moment

/-!
## Between two runs
-/

namespace Link

/-- No text waits for a connection to come. -/
def IsSettled (link : Link) : Prop :=
  link.isConnected = false → link.queue = []

/-- What becomes of a new link by all that can be asked of it. -/
inductive InUse : Link → Prop
  | made (settings : ServerSettings) (attempts : List Attempt) :
      InUse (.of settings attempts)
  | connect (inUse : InUse link) : InUse link.connect.1
  | publish (inUse : InUse link) (text : String) : InUse (link.publish text).1
  | write (inUse : InUse link) (frame : Frame) : InUse (link.write frame).1
  | handle (inUse : InUse link) (listener? : Option Listener) (message : Message) :
      InUse (link.handle listener? message)
  | disconnect (inUse : InUse link) : InUse link.disconnect
  | run (inUse : InUse link) (listener? : Option Listener) : InUse (link.run listener?).1

namespace IsSettled

variable {link : Link}

theorem of_empty
    (empty : link.queue = []) :
    link.IsSettled :=
  fun _ => empty

/-- Telling leaves a link settled. -/
theorem of_tells
    {later : Link}
    (settled : link.IsSettled)
    (tells : Tells link later) :
    later.IsSettled := by
  obtain ⟨events, -, rfl⟩ := tells
  exact settled

/-- After an attempt on a settled link no text waits. -/
theorem of_establish
    {later : Link}
    {failure? : Option LinkFailure}
    (settled : link.IsSettled)
    (apart : link.isConnected = false)
    (established : establish { link with state := .connecting } = (later, failure?)) :
    later.queue = [] :=
  (establishes established).queue.trans (settled apart)

/-- Connecting leaves a link settled. -/
theorem connect
    (settled : link.IsSettled) :
    link.connect.1.IsSettled := by
  unfold Link.connect
  by_cases connected : link.isConnected = true
  · rw [if_pos connected]
    exact settled
  · rw [if_neg connected]
    cases established : establish { link with state := .connecting } with
    | mk later failure? =>
        have empty := settled.of_establish (by simpa using connected) established
        cases failure? with
        | none =>
            exact .of_empty empty
        | some failure =>
            dsimp only
            split
            · exact .of_empty ((closeSocket_queue _).trans empty)
            · exact .of_empty empty

/-- Publishing leaves a link settled. -/
theorem publish
    (settled : link.IsSettled)
    (text : String) :
    (link.publish text).1.IsSettled := by
  unfold Link.publish
  split
  · next connected =>
    exact fun apart => absurd (connected.symm.trans apart) (by simp)
  · exact settled.of_tells (.note _ _ _)

/-- Writing a frame leaves a link settled. -/
theorem write
    (settled : link.IsSettled)
    (frame : Frame) :
    (link.write frame).1.IsSettled := by
  have writes := link.write_writes frame
  generalize link.write frame = result at writes ⊢
  cases writes with
  | missing _ =>
      exact settled
  | fails present _ =>
      intro apart
      exact settled (by simpa [isConnected, present] using apart)
  | succeeds present _ =>
      intro apart
      exact settled (by simpa [isConnected, present] using apart)

/-- Disconnecting settles a link. -/
theorem disconnect
    (link : Link) :
    link.disconnect.IsSettled := by
  apply of_empty
  simp only [Link.disconnect, closeSocket_queue, stopSender_queue]

/-- Listening settles a link, since it ends with the sender stopped. -/
theorem listen
    (listener? : Option Listener)
    (link : Link) :
    (link.listen listener?).IsSettled := by
  apply of_empty
  unfold Link.listen
  dsimp only
  split <;> exact stopSender_queue _

/-- A turn leaves a link settled. -/
theorem turn
    (settled : link.IsSettled)
    (listener? : Option Listener) :
    (link.turn listener?).1.IsSettled := by
  have turns := link.turn_turns listener?
  generalize link.turn listener? = result at turns ⊢
  cases turns with
  | finished off =>
      exact settled
  | listened on connected =>
      exact .listen listener? link
  | connected on apart established =>
      exact .listen listener? _
  | escaped on apart established unexpected =>
      exact .of_empty (settled.of_establish apart established)
  | gaveUp on apart established expected exhausted =>
      have empty := settled.of_establish apart established
      exact .of_empty ((closeSocket_queue _).trans empty)
  | rested on apart established expected patient =>
      have empty := settled.of_establish apart established
      exact .of_empty ((closeSocket_queue _).trans empty)

/-- Any number of turns leaves a link settled. -/
theorem runFor
    (settled : link.IsSettled)
    (listener? : Option Listener)
    (turns : Nat) :
    (link.runFor listener? turns).1.IsSettled := by
  induction turns generalizing link with
  | zero =>
      exact settled
  | succ turns inductionHypothesis =>
      have turned := settled.turn listener?
      unfold Link.runFor
      cases outcome : link.turn listener? with
      | mk later turn =>
          rw [outcome] at turned
          cases turn with
          | goOn =>
              exact inductionHypothesis turned
          | _ =>
              exact turned

end IsSettled

/-- Whatever was asked of a link, also in earlier runs, no text waits for a connection to come. -/
theorem InUse.isSettled
    {link : Link}
    (inUse : link.InUse) :
    link.IsSettled := by
  induction inUse with
  | made settings attempts =>
      exact .of_empty rfl
  | connect _ inductionHypothesis =>
      exact inductionHypothesis.connect
  | publish _ text inductionHypothesis =>
      exact inductionHypothesis.publish text
  | write _ frame inductionHypothesis =>
      exact inductionHypothesis.write frame
  | handle _ listener? message inductionHypothesis =>
      exact inductionHypothesis.of_tells (tells_handle listener? _ message)
  | disconnect _ _ =>
      exact .disconnect _
  | @run link _ listener? inductionHypothesis =>
      have started : { link with running := true }.IsSettled := inductionHypothesis
      exact started.runFor listener? _

end Link

/-!
## What is delivered
-/

/-- What a run did with the texts that were queued when it began and those published since. -/
structure Delivers (queued : List String) (events : List LinkEvent) : Prop where
  /-- At any time, what was written is a part of what was accepted, in order. -/
  inOrder :
    ∀ before after,
      events = before ++ after → sent before <+ queued ++ accepted before
  /-- No text is written more often than it was accepted. -/
  atMostOnce : ∀ text, (sent events).count text ≤ (queued ++ accepted events).count text
  /-- What is written after a connection was asked for was accepted since. -/
  sameConnection :
    ∀ before url heartbeat during after,
      events = before ++ .called url heartbeat :: during ++ after →
        sent during <+ accepted during
  refusedUnsent :
    ∀ text,
      text ∈ refused events → text ∉ queued → text ∉ accepted events → text ∉ sent events

/-- Texts that wait in order are delivered in order. -/
theorem Waits.delivers
    {queued texts : List String}
    {events : List LinkEvent}
    (waits : Waits queued events texts) :
    Delivers queued events := by
  have partOf
      {queued left : List String}
      {events : List LinkEvent}
      (waits : Waits queued events left) :
      sent events <+ queued ++ accepted events :=
    (sublist_append_left _ _).trans waits.sublist
  refine ⟨?_, fun text => (partOf waits).count_le text, ?_, ?_⟩
  · intro before after cut
    obtain ⟨between, earlier⟩ := waits.of_append cut
    exact partOf earlier
  · intro before url heartbeat during after cut
    obtain ⟨between, earlier⟩ := waits.of_append cut
    simpa using partOf (earlier.after_call rfl)
  · intro text _ notQueued notAccepted written
    rcases mem_append.mp ((partOf waits).subset written) with queued | accepted
    · exact notQueued queued
    · exact notAccepted accepted

/-- At any moment of a run, what it did with the texts so far is a delivery. -/
theorem Link.IsSettled.delivers
    {link : Link}
    (settled : link.IsSettled)
    {moment : Moment}
    (schedule : Schedule.Reaches (Moment.start link) moment) :
    ∃ events, moment.link.trace = link.trace ++ events ∧ Delivers link.queue events := by
  obtain ⟨-, events, trace, waits⟩ := Moment.Flows.reaches (.start settled) schedule
  exact ⟨events, trace, waits.delivers⟩

/-- A run of a link in use delivers, whatever was done with the link before. -/
theorem Link.InUse.delivers
    {link : Link}
    (inUse : link.InUse)
    (listener? : Option Listener) :
    (∀ moment,
      Schedule.Reaches (Moment.start link) moment →
        ∃ events,
          moment.link.trace = link.trace ++ events ∧ Delivers link.queue events)
      ∧ ∃ events,
        (link.run listener?).1.trace = link.trace ++ events ∧ Delivers link.queue events :=
  ⟨fun _ => inUse.isSettled.delivers,
    inUse.isSettled.delivers (Schedule.reaches_end listener? link)⟩

/--
Whatever the schedule, accepted texts are written in order, once, and on their connection, if no
text waits when the run begins without one.  Of a link in use that is true.
-/
theorem Link.run_delivers
    (link : Link)
    (settled : link.isConnected = false → link.queue = []) :
    (∀ moment,
      Schedule.Reaches (Moment.start link) moment →
        ∃ events,
          moment.link.trace = link.trace ++ events ∧ Delivers link.queue events)
      ∧ ∀ listener?,
        ∃ events,
          (link.run listener?).1.trace = link.trace ++ events ∧ Delivers link.queue events := by
  have settled : link.IsSettled := settled
  exact ⟨fun _ => settled.delivers,
    fun listener? => settled.delivers (Schedule.reaches_end listener? link)⟩

/-- A text that is published while the link listens is written. -/
theorem Link.run_delivers_play :
    ∃ events,
      ((Link.onSocket [.publish "Play" false]).run none).1.trace = events
        ∧ sent events = ["Play"]
        ∧ Delivers [] events := by
  obtain ⟨-, delivers⟩ := Link.run_delivers (.onSocket [.publish "Play" false]) fun _ => rfl
  obtain ⟨events, trace, delivers⟩ := delivers none
  have written :
      sent ((Link.onSocket [.publish "Play" false]).run none).1.trace = ["Play"] := by
    decide +kernel
  refine ⟨events, trace, ?_, delivers⟩
  rwa [trace] at written

end SceneEditor
