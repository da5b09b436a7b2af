import Mathlib.Order.Bounds.Basic
import SceneEditor.Proofs.Link.Outlook

namespace SceneEditor

/-!
# When a run gives up

A run whose streams are all closed by the server tries to connect again and again.  It counts the
attempts that failed since the last one that succeeded, and it gives up right after the first block
of as many failures as it is allowed and one more.  After every other failure it waits.
-/

/-- Nobody asks to disconnect, and then the stream ends or is closed. -/
def StreamItem.endByClosing : List StreamItem → Bool
  | [] => true
  | .fault cause :: _ => cause == .closed
  | .disconnect :: _ => false
  | _ :: rest => endByClosing rest

open StreamItem (endByClosing)

/-!
## Blocks of failures
-/

/-- As many of the first attempts as are counted end in a block of failures. -/
def EndsInFailures (succeeds : Nat → Bool) (failures count : Nat) : Prop :=
  failures ≤ count ∧ ∀ number < count, count ≤ number + failures → succeeds number = false

/-- How many attempts have failed since the last that succeeded. -/
def streak (succeeds : Nat → Bool) : Nat → Nat
  | 0 => 0
  | count + 1 => if succeeds count then 0 else streak succeeds count + 1

/-- One more failure at the end is one more failed attempt. -/
theorem endsInFailures_succ
    {succeeds : Nat → Bool}
    {failures count : Nat} :
    EndsInFailures succeeds (failures + 1) (count + 1) ↔
      succeeds count = false ∧ EndsInFailures succeeds failures count := by
  constructor
  · rintro ⟨enough, failed⟩
    refine ⟨failed count (by omega) (by omega), by omega, fun number below within => ?_⟩
    exact failed number (by omega) (by omega)
  · rintro ⟨last, enough, failed⟩
    refine ⟨by omega, fun number below within => ?_⟩
    rcases Nat.lt_succ_iff_lt_or_eq.mp below with earlier | rfl
    · exact failed number earlier (by omega)
    · exact last

/-- The failures at the end are no more than the streak. -/
theorem endsInFailures_iff
    {succeeds : Nat → Bool}
    {failures count : Nat} :
    EndsInFailures succeeds failures count ↔ failures ≤ streak succeeds count := by
  induction count generalizing failures with
  | zero =>
      simp [EndsInFailures, streak]
  | succ count inductionHypothesis =>
      cases failures with
      | zero =>
          simp only [Nat.zero_le, iff_true]
          exact ⟨Nat.zero_le _, fun number below within => by omega⟩
      | succ failures =>
          rw [endsInFailures_succ, inductionHypothesis, streak]
          cases succeeds count <;> simp

namespace Link

/-!
## What a run comes to
-/

/-- The failures after which a run gives up. -/
def budget (settings : ServerSettings) : Nat :=
  (max settings.maxReconnectAttempts 0).toNat + 1

/-- An attempt calls, unless there is no time for it. -/
def callPaces (settings : ServerSettings) : List LinkEvent :=
  if settings.connectTimeout.le 0 then []
  else [.called settings.url settings.heartbeatInterval]

/-- The attempt with a number, and the wait after it if it failed. -/
def attemptPaces (base : Link) (number : Nat) : List LinkEvent :=
  callPaces base.settings ++
    if base.succeeds number then [] else [.slept base.settings.reconnectDelay]

/-- The first attempts, and the waits after those that failed. -/
def pacesUpTo (base : Link) (count : Nat) : List LinkEvent :=
  (List.range count).flatMap base.attemptPaces

/-- The run of a link gave up right after the attempt with a number. -/
structure GivesUpAfter (base : Link) (last : Nat) (link : Link) : Prop where
  first : IsLeast {count | EndsInFailures base.succeeds (budget base.settings) count} (last + 1)
  paces : link.paces = base.pacesUpTo last ++ callPaces base.settings
  attempts :
    base.settings.connectTimeout.le 0 = false → link.attempts = base.attempts.drop (last + 1)
  failures : link.failures = budget base.settings
  state : link.state = .disconnected

/--
Every attempt of a link that is not connected succeeds or fails, and if one succeeds the server
closes what is then listened to.
-/
structure IsServed (base : Link) : Prop where
  apart : base.isConnected = false
  answers : ∀ number, ∃ answer, base.outcome number = .ok answer
  closing :
    ∀ number socket,
      base.attempts[number]? = some (.opened socket) →
        base.succeeds number = true → endByClosing socket.stream = true

/-- The paces of the last attempt come behind those of all before. -/
theorem pacesUpTo_succ
    (base : Link)
    (count : Nat) :
    base.pacesUpTo (count + 1) = base.pacesUpTo count ++ base.attemptPaces count := by
  simp [pacesUpTo, List.range_succ]

/-!
## Where a run stands
-/

/-- So many attempts were made, so many were taken off, and the run has not given up. -/
structure Stands
    (base link : Link)
    (made taken : Nat)
    (paces : List LinkEvent) : Prop where
  settings : link.settings = base.settings
  running : link.running = true
  failures : link.failures = streak base.succeeds made
  attempts :
    base.settings.connectTimeout.le 0 = false → link.attempts = base.attempts.drop taken
  paces : link.paces = paces
  patient :
    ∀ count ≤ made, streak base.succeeds count < budget base.settings

namespace Stands

variable {base link later : Link} {made taken : Nat} {paces : List LinkEvent}

/-- What does not touch the attempts leaves a run where it stands. -/
theorem of_idles
    (stands : Stands base link made taken paces)
    (idles : Idles link later) :
    Stands base later made taken paces where
  settings := idles.keeps.settings.trans stands.settings
  running := idles.running.trans stands.running
  failures := idles.keeps.failures.trans stands.failures
  attempts onTime := idles.keeps.attempts.trans (stands.attempts onTime)
  paces := idles.paces.trans stands.paces
  patient := stands.patient

/-- An attempt is taken off, and nothing else of this has changed. -/
theorem taken_succ
    (stands : Stands base link made taken paces)
    (settings : later.settings = link.settings)
    (running : later.running = link.running)
    (failures : later.failures = link.failures)
    (attempts : later.attempts = link.attempts.tail)
    (same : later.paces = link.paces) :
    Stands base later made (taken + 1) paces where
  settings := settings.trans stands.settings
  running := running.trans stands.running
  failures := failures.trans stands.failures
  attempts onTime := by
    rw [attempts, stands.attempts onTime, List.tail_drop]
  paces := same.trans stands.paces
  patient := stands.patient

/-- After an attempt that succeeded, no failure counts. -/
theorem succeeded
    (stands :
      Stands base link made (made + 1) (base.pacesUpTo made ++ callPaces base.settings))
    (succeeded : base.succeeds made = true) :
    Stands base { link with state := .connected, failures := 0 } (made + 1) (made + 1)
      (base.pacesUpTo (made + 1)) where
  settings := stands.settings
  running := stands.running
  failures := by simp [streak, succeeded]
  attempts := stands.attempts
  paces := by
    refine Eq.trans stands.paces ?_
    simp [pacesUpTo_succ, attemptPaces, succeeded]
  patient count within := by
    rcases Nat.lt_or_eq_of_le within with earlier | rfl
    · exact stands.patient count (Nat.lt_succ_iff.mp earlier)
    · simp [streak, succeeded, budget]

/-- After an attempt that failed, one more failure counts. -/
theorem failures_abandon
    (stands : Stands base link made taken paces)
    (failed : base.succeeds made = false) :
    link.abandon.failures = streak base.succeeds (made + 1) := by
  have counted : link.abandon.failures = link.failures + 1 :=
    congrArg (· + 1) link.keeps_closeSocket.failures
  rw [counted, stands.failures]
  simp [streak, failed]

theorem settings_abandon
    (stands : Stands base link made taken paces) :
    link.abandon.settings = base.settings :=
  link.keeps_closeSocket.settings.trans stands.settings

/-- If the failures are still allowed, the run waits. -/
theorem rested
    (stands :
      Stands base link made (made + 1) (base.pacesUpTo made ++ callPaces base.settings))
    (failed : base.succeeds made = false)
    (patient : ¬link.abandon.settings.maxReconnectAttempts < link.abandon.failures) :
    Stands base (link.abandon.record (.slept link.abandon.settings.reconnectDelay))
      (made + 1) (made + 1) (base.pacesUpTo (made + 1)) where
  settings := stands.settings_abandon
  running := by
    obtain ⟨events, -, closed⟩ := link.closeSocket_tells
    exact (congrArg Link.running closed).trans stands.running
  failures := stands.failures_abandon failed
  attempts onTime := link.keeps_closeSocket.attempts.trans (stands.attempts onTime)
  paces := by
    have closed : link.abandon.paces = link.paces := link.paces_closeSocket
    rw [paces_record, closed, stands.paces, stands.settings_abandon, pacesUpTo_succ,
      attemptPaces, failed, List.append_assoc]
    rfl
  patient count within := by
    rcases Nat.lt_or_eq_of_le within with earlier | rfl
    · exact stands.patient count (Nat.lt_succ_iff.mp earlier)
    · rw [stands.failures_abandon failed, stands.settings_abandon] at patient
      unfold budget
      omega

/-- If they are not, there are exactly as many as make the run give up, for the first time. -/
theorem gaveUp
    (stands :
      Stands base link made (made + 1) (base.pacesUpTo made ++ callPaces base.settings))
    (failed : base.succeeds made = false)
    (exhausted : link.abandon.settings.maxReconnectAttempts < link.abandon.failures) :
    GivesUpAfter base made
      (link.abandon.note .error "Max reconnection attempts reached") := by
  have counted := stands.failures_abandon failed
  have before := stands.patient made (Nat.le_refl made)
  have reached : streak base.succeeds (made + 1) = budget base.settings := by
    rw [counted, stands.settings_abandon] at exhausted
    simp only [streak, failed, Bool.false_eq_true, if_false] at exhausted ⊢
    unfold budget at before ⊢
    omega
  have closed : link.abandon.paces = link.paces := link.paces_closeSocket
  refine ⟨⟨?_, ?_⟩, ?_, ?_, ?_, rfl⟩
  · exact endsInFailures_iff.mpr reached.ge
  · intro count ends
    by_contra earlier
    have fewer := stands.patient count (by omega)
    have enough := endsInFailures_iff.mp ends
    omega
  · rw [paces_note, closed, stands.paces]
  · exact fun onTime => link.keeps_closeSocket.attempts.trans (stands.attempts onTime)
  · exact counted.trans (congrArg Nat.cast reached)

end Stands

open Schedule

/-- What is known of a run at each of its stages. -/
inductive OnCourse (base : Link) : Moment → Prop
  | apart {link : Link} {stage : Stage} {made : Nat}
      (stands : Stands base link made made (base.pacesUpTo made))
      (apart : link.isConnected = false)
      (waits : stage = .ready ∨ stage = .resting) :
      OnCourse base ⟨link, stage, .absent⟩
  | calling {link : Link} {made : Nat}
      (stands : Stands base link made made (base.pacesUpTo made))
      (outlook : link.outlook? .calling = (base.after made).refusal?) :
      OnCourse base ⟨link, .dialling .calling, .absent⟩
  | opening {link : Link} {made : Nat}
      (stands : Stands base link made made (base.pacesUpTo made ++ callPaces base.settings))
      (onTime : base.settings.connectTimeout.le 0 = false)
      (outlook : link.outlook? .opening = (base.after made).refusal?) :
      OnCourse base ⟨link, .dialling .opening, .absent⟩
  | shaking {link : Link} {dial : Dial} {made : Nat}
      (stands :
        Stands base link made (made + 1) (base.pacesUpTo made ++ callPaces base.settings))
      (shaking : dial.isShaking = true)
      (present : link.socket?.isSome = true)
      (outlook : link.outlook? dial = (base.after made).refusal?)
      (closing : base.succeeds made = true → endByClosing link.stream = true) :
      OnCourse base ⟨link, .dialling dial, .absent⟩
  | abandoning {link : Link} {made : Nat}
      (stands :
        Stands base link made (made + 1) (base.pacesUpTo made ++ callPaces base.settings))
      (failed : base.succeeds made = false) :
      OnCourse base ⟨link, .abandoning, .absent⟩
  | connected {link : Link} {made : Nat}
      (stands : Stands base link made made (base.pacesUpTo made))
      (connected : link.isConnected = true)
      (closing : endByClosing link.stream = true) :
      OnCourse base ⟨link, .ready, .absent⟩
  | listening {link : Link} {items : List StreamItem} {sender : SenderStage} {made : Nat}
      (stands : Stands base link made made (base.pacesUpTo made))
      (present : link.socket?.isSome = true)
      (closing : endByClosing items = true)
      (found : sender ≠ .stranded) :
      OnCourse base ⟨link, .listening items, sender⟩
  | stopping {link : Link} {sender : SenderStage} {made : Nat}
      (stands : Stands base link made made (base.pacesUpTo made))
      (found : sender ≠ .stranded) :
      OnCourse base ⟨link, .stopping, sender⟩
  | finished {link : Link} {last : Nat}
      (gaveUp : GivesUpAfter base last link) :
      OnCourse base ⟨link, .finished, .absent⟩

namespace OnCourse

variable {base link later : Link} {made : Nat}

/-- An attempt that failed does not escape, and it counts. -/
theorem of_refused
    {failure : LinkFailure}
    (served : base.IsServed)
    (refused : (base.after made).refusal? = some failure)
    (stands :
      Stands base later made (made + 1) (base.pacesUpTo made ++ callPaces base.settings)) :
    failure.isExpected = true
      ∧ OnCourse base ⟨later.noteFailure failure, .abandoning, .absent⟩ := by
  obtain ⟨expected, failed⟩ := fails_of_refused served.apart (served.answers made) refused
  exact ⟨expected, .abandoning (stands.of_idles (.note _ _ _)) failed⟩

/-- Where a stage of an attempt leads. -/
def Leads (base later : Link) : Except LinkFailure (Option Dial) → Prop
  | .error failure =>
      failure.isExpected = true
        ∧ OnCourse base ⟨later.noteFailure failure, .abandoning, .absent⟩
  | .ok none => OnCourse base ⟨{ later with state := .connected, failures := 0 }, .ready, .absent⟩
  | .ok (some next) => OnCourse base ⟨later, .dialling next, .absent⟩

/-- Calling leads to an open socket, or to a failure that was foreseen. -/
theorem leads_calling
    {result : Except LinkFailure (Option Dial)}
    (served : base.IsServed)
    (stands : Stands base link made made (base.pacesUpTo made))
    (outlook : link.outlook? .calling = (base.after made).refusal?)
    (dialled : link.dial .calling = (later, result)) :
    Leads base later result := by
  have ahead := (outlook_dial dialled).trans outlook
  simp only [dial, stands.settings] at dialled
  cases late : base.settings.connectTimeout.le 0 with
  | true =>
      rw [if_pos late] at dialled
      obtain ⟨rfl, rfl⟩ := Prod.mk.inj dialled
      refine of_refused served ahead.symm ?_
      refine ⟨stands.settings, stands.running, stands.failures, ?_, ?_, stands.patient⟩
      · exact fun onTime => absurd (late.symm.trans onTime) (by simp)
      · simp [callPaces, late, stands.paces]
  | false =>
      rw [if_neg (by simp [late])] at dialled
      obtain ⟨rfl, rfl⟩ := Prod.mk.inj dialled
      refine .opening ?_ late ahead
      refine ⟨stands.settings, stands.running, stands.failures, stands.attempts, ?_,
        stands.patient⟩
      simp [paces_record, callPaces, late, stands.paces, LinkEvent.isPace]

/-- Opening a socket leads to the handshake, or to a failure that was foreseen. -/
theorem leads_opening
    {result : Except LinkFailure (Option Dial)}
    (served : base.IsServed)
    (stands : Stands base link made made (base.pacesUpTo made ++ callPaces base.settings))
    (onTime : base.settings.connectTimeout.le 0 = false)
    (outlook : link.outlook? .opening = (base.after made).refusal?)
    (dialled : link.dial .opening = (later, result)) :
    Leads base later result := by
  have ahead := (outlook_dial dialled).trans outlook
  have waiting := stands.attempts onTime
  simp only [dial] at dialled
  cases used : link.attempts with
  | nil =>
      rw [used] at dialled
      obtain ⟨rfl, rfl⟩ := Prod.mk.inj dialled
      exact of_refused served ahead.symm (stands.taken_succ rfl rfl rfl (by simp [used]) rfl)
  | cons attempt attempts =>
      rw [used] at dialled
      cases attempt with
      | fault fault =>
          obtain ⟨rfl, rfl⟩ := Prod.mk.inj dialled
          exact of_refused served ahead.symm (stands.taken_succ rfl rfl rfl (by simp [used]) rfl)
      | opened socket =>
          obtain ⟨rfl, rfl⟩ := Prod.mk.inj dialled
          have stands :
              Stands base { link with attempts, socket? := some socket } made (made + 1)
                (base.pacesUpTo made ++ callPaces base.settings) :=
            stands.taken_succ rfl rfl rfl (by simp [used]) rfl
          cases found : Address.host link.settings.url with
          | error error =>
              rw [found] at ahead
              exact of_refused served ahead.symm stands
          | ok host =>
              rw [found] at ahead
              refine .shaking stands rfl rfl ahead fun succeeded => ?_
              refine served.closing made socket ?_ succeeded
              have first : (base.attempts.drop made)[0]? = some (.opened socket) := by
                rw [← waiting, used]
                rfl
              rwa [List.getElem?_drop] at first

/-- A handshake leads on, or to a failure that was foreseen. -/
theorem leads_shaking
    {stage : Dial}
    {result : Except LinkFailure (Option Dial)}
    (served : base.IsServed)
    (stands :
      Stands base link made (made + 1) (base.pacesUpTo made ++ callPaces base.settings))
    (shaking : stage.isShaking = true)
    (present : link.socket?.isSome = true)
    (outlook : link.outlook? stage = (base.after made).refusal?)
    (closing : base.succeeds made = true → endByClosing link.stream = true)
    (dialled : link.dial stage = (later, result)) :
    Leads base later result := by
  have ahead := (outlook_dial dialled).trans outlook
  obtain ⟨idles, shakes⟩ := Idles.dial shaking dialled
  have stands := stands.of_idles idles
  have sameStream : later.stream = link.stream := by
    rw [stream, stream, idles.stream]
  have present : later.socket?.isSome = true := by
    rw [← Option.isSome_map, idles.stream, Option.isSome_map, present]
  rw [← sameStream] at closing
  match result with
  | .error failure =>
      exact of_refused served ahead.symm stands
  | .ok none =>
      have succeeded := succeeds_of_agreed served.apart ahead.symm
      exact .connected (stands.succeeded succeeded) present (closing succeeded)
  | .ok (some next) =>
      exact .shaking stands (shakes next rfl) present ahead closing

/-- The steps of an attempt lead where its stages do. -/
theorem dialling
    {stage : Dial}
    {moment : Moment}
    (leads : ∀ later result, link.dial stage = (later, result) → Leads base later result)
    (step : RunStep ⟨link, .dialling stage, .absent⟩ moment) :
    OnCourse base moment := by
  cases step with
  | dial dialled =>
      exact leads _ _ dialled
  | connect dialled =>
      exact leads _ _ dialled
  | fail dialled _ =>
      exact (leads _ _ dialled).2
  | escape dialled unexpected =>
      exact nomatch unexpected.symm.trans (leads _ _ dialled).1

theorem runStep
    {moment later : Moment}
    (served : base.IsServed)
    (onCourse : OnCourse base moment)
    (step : RunStep moment later) :
    OnCourse base later := by
  cases onCourse with
  | apart stands apart waits =>
      rcases waits with rfl | rfl
      · cases step with
        | finish off =>
            exact nomatch stands.running.symm.trans off
        | listen on connected =>
            exact nomatch apart.symm.trans connected
        | call on _ =>
            refine .calling ⟨stands.settings, stands.running, stands.failures, stands.attempts,
              stands.paces, stands.patient⟩ ?_
            exact refusal?_congr stands.settings stands.attempts
      · cases step with
        | wake =>
            exact .apart stands apart (.inl rfl)
  | calling stands outlook =>
      exact dialling (fun _ _ => leads_calling served stands outlook) step
  | opening stands onTime outlook =>
      exact dialling (fun _ _ => leads_opening served stands onTime outlook) step
  | shaking stands shaking present outlook closing =>
      exact dialling
        (fun _ _ => leads_shaking served stands shaking present outlook closing) step
  | abandoning stands failed =>
      cases step with
      | giveUp exhausted =>
          exact .finished (stands.gaveUp failed exhausted)
      | rest patient =>
          exact .apart (stands.rested failed patient) rfl (.inr rfl)
  | connected stands connected closing =>
      cases step with
      | finish off =>
          exact nomatch stands.running.symm.trans off
      | listen on _ =>
          have present := (Bool.and_eq_true_iff.mp connected).2
          exact .listening ⟨stands.settings, stands.running, stands.failures, stands.attempts,
            stands.paces, stands.patient⟩ present closing nofun
      | call on apart =>
          exact nomatch apart.symm.trans connected
  | @listening link _ _ _ stands present closing found =>
      cases step with
      | @message _ message _ _ listener? =>
          have handled := Idles.handle listener? link message
          have sameSocket := (link.tells_handle listener? message).socket?
          exact .listening (stands.of_idles handled) (by rw [sameSocket, present]) closing found
      | @publish _ text =>
          have offered := Idles.offer link text
          have sameSocket := (link.offer_fields text).2
          exact .listening (stands.of_idles offered) (by rw [sameSocket, present]) closing found
      | part _ =>
          exact nomatch closing
      | partUnseen _ =>
          exact nomatch closing
      | streamEnds =>
          exact .stopping (stands.of_idles (.noteEnd_none _)) found
      | streamCloses =>
          exact .stopping (stands.of_idles (.note _ _ _)) found
      | streamBreaks unforeseen =>
          exact absurd (beq_iff_eq.mp closing) unforeseen
  | @stopping link _ _ stands found =>
      have stopped := stands.of_idles (.stopSender link)
      cases step with
      | reconnect gone on =>
          exact .apart ⟨stopped.settings, stopped.running, stopped.failures, stopped.attempts,
            stopped.paces, stopped.patient⟩ rfl (.inl rfl)
      | wind gone off =>
          exact nomatch stands.running.symm.trans off
      | reraise =>
          exact absurd rfl found
  | finished gaveUp =>
      cases step

theorem senderStep
    {moment later : Moment}
    (onCourse : OnCourse base moment)
    (step : SenderStep moment later) :
    OnCourse base later := by
  cases onCourse with
  | listening stands present closing found =>
      cases step with
      | take _ _ _ =>
          exact .listening (stands.of_idles ⟨⟨rfl, rfl, rfl⟩, rfl, rfl, rfl, rfl⟩) present closing
            nofun
      | strand _ _ missing =>
          simp [missing] at present
      | send _ written =>
          exact .listening (stands.of_idles (.of_write written)) (isSome_of_write written present)
            closing nofun
      | sendLate _ missing =>
          simp [missing] at present
      | lose _ failed =>
          have failing := stands.of_idles (.of_write failed)
          have stillPresent := isSome_of_write failed present
          exact .listening (failing.of_idles ⟨⟨rfl, rfl, rfl⟩, rfl, rfl, rfl, rfl⟩) stillPresent
            closing nofun
      | loseLate _ =>
          exact .listening (stands.of_idles ⟨⟨rfl, rfl, rfl⟩, rfl, rfl, rfl, rfl⟩) present closing
            nofun
      | comeBack _ =>
          exact .listening stands present closing nofun
      | cancel dismissed _ =>
          exact nomatch dismissed
  | stopping stands found =>
      cases step with
      | cancel _ _ =>
          exact .stopping stands nofun
      | _ undisturbed =>
          exact nomatch undisturbed
  | _ =>
      cases step with
      | cancel _ alive =>
          exact nomatch alive

/-- A text that is published leaves a run on course. -/
theorem publish
    {stage : Stage}
    {sender : SenderStage}
    (onCourse : OnCourse base ⟨link, stage, sender⟩)
    (text : String)
    (on : stage.isOver = false) :
    OnCourse base ⟨link.offer text, stage, sender⟩ := by
  have offered := Idles.offer link text
  have sameSocket := (link.offer_fields text).2
  have sameLink : (link.offer text).isConnected = link.isConnected := by
    rw [isConnected, isConnected, offered.state, sameSocket]
  have sameStream : (link.offer text).stream = link.stream := by
    rw [stream, stream, sameSocket]
  cases onCourse with
  | apart stands apart waits =>
      exact .apart (stands.of_idles offered) (sameLink.trans apart) waits
  | calling stands outlook =>
      exact .calling (stands.of_idles offered) ((outlook_offer _ _ _).trans outlook)
  | opening stands onTime outlook =>
      exact .opening (stands.of_idles offered) onTime ((outlook_offer _ _ _).trans outlook)
  | shaking stands shaking present outlook closing =>
      exact .shaking (stands.of_idles offered) shaking (sameSocket ▸ present)
        ((outlook_offer _ _ _).trans outlook) (sameStream ▸ closing)
  | abandoning stands failed =>
      exact .abandoning (stands.of_idles offered) failed
  | connected stands connected closing =>
      exact .connected (stands.of_idles offered) (sameLink.trans connected) (sameStream ▸ closing)
  | listening stands present closing found =>
      exact .listening (stands.of_idles offered) (sameSocket ▸ present) closing found
  | stopping stands found =>
      exact .stopping (stands.of_idles offered) found
  | finished gaveUp =>
      exact absurd on.symm Bool.false_ne_true

/-- A run stays on course through any schedule. -/
theorem reaches
    {moment later : Moment}
    (served : base.IsServed)
    (onCourse : OnCourse base moment)
    (schedule : Reaches moment later) :
    OnCourse base later := by
  induction schedule with
  | refl =>
      exact onCourse
  | tail _ step inductionHypothesis =>
      cases step with
      | run step =>
          exact inductionHypothesis.runStep served step
      | sender step =>
          exact inductionHypothesis.senderStep step
      | publish text on =>
          exact inductionHypothesis.publish text on

/-- A new link is on course. -/
theorem start
    (settings : ServerSettings)
    (attempts : List Attempt) :
    OnCourse (.of settings attempts) (Moment.start (.of settings attempts)) := by
  have none : ∀ count ≤ 0, streak (Link.of settings attempts).succeeds count = 0 := by
    rintro count within
    obtain rfl := Nat.le_zero.mp within
    rfl
  have stands :
      Stands (.of settings attempts) { Link.of settings attempts with running := true } 0 0
        ((Link.of settings attempts).pacesUpTo 0) := by
    refine ⟨rfl, rfl, rfl, fun _ => rfl, rfl, fun count within => ?_⟩
    rw [none count within]
    exact Nat.succ_pos _
  exact .apart stands rfl (.inl rfl)

end OnCourse

/--
A run on a link that has done nothing yet, whose streams are all closed by the server, gives up
right after the first block of as many failures as it is allowed and one more.
-/
theorem run_givesUp
    (settings : ServerSettings)
    (attempts : List Attempt)
    (served : (Link.of settings attempts).IsServed) :
    (∀ moment,
      Reaches (Moment.start (.of settings attempts)) moment →
        (∀ failure, moment.stage ≠ .escaped failure)
          ∧ (moment.stage = .finished →
            ∃ last, GivesUpAfter (.of settings attempts) last moment.link))
      ∧ ∀ listener?,
        ((Link.of settings attempts).run listener?).2 = none
          ∧ ∃ last,
            GivesUpAfter (.of settings attempts) last
              ((Link.of settings attempts).run listener?).1 := by
  have ends (moment : Moment) (onCourse : OnCourse (.of settings attempts) moment) :
      (∀ failure, moment.stage ≠ .escaped failure)
        ∧ (moment.stage = .finished →
          ∃ last, GivesUpAfter (.of settings attempts) last moment.link) := by
    cases onCourse with
    | apart _ _ waits =>
        rcases waits with rfl | rfl <;> exact ⟨nofun, nofun⟩
    | finished gaveUp =>
        exact ⟨nofun, fun _ => ⟨_, gaveUp⟩⟩
    | _ =>
        exact ⟨nofun, nofun⟩
  have onCourse {moment : Moment} (schedule : Reaches (Moment.start (.of settings attempts)) moment) :=
    (OnCourse.start settings attempts).reaches served schedule
  refine ⟨fun moment schedule => ends moment (onCourse schedule), fun listener? => ?_⟩
  obtain ⟨unescaped, gaveUp⟩ := ends _ (onCourse (reaches_end listener? (.of settings attempts)))
  cases outcome : ((Link.of settings attempts).run listener?).2 with
  | some failure =>
      rw [outcome] at unescaped
      exact absurd rfl (unescaped failure)
  | none =>
      rw [outcome] at gaveUp
      exact ⟨rfl, gaveUp rfl⟩

/-- A failure, a success, and the two failures after which a run gives up that is allowed one. -/
theorem run_givesUp_afterTwo :
    let settings : ServerSettings := { maxReconnectAttempts := 1 }
    let attempts : List Attempt :=
      [.fault .refused,
        .opened
          { handshake := [.message (.text "CONNECTED\n\n\x00")]
            stream := [.publish "Play" false, .fault .closed] }]
    let call : LinkEvent := .called settings.url settings.heartbeatInterval
    let wait : LinkEvent := .slept settings.reconnectDelay
    (Link.of settings attempts).IsServed
      ∧ ((Link.of settings attempts).run none).2 = none
      ∧ (∃ last,
        GivesUpAfter (.of settings attempts) last ((Link.of settings attempts).run none).1)
      ∧ ((Link.of settings attempts).run none).1.paces = [call, wait, call, call, wait, call] := by
  intro settings attempts call wait
  have foreseen : (Link.of settings attempts).IsForeseen := ⟨by decide +kernel, by decide +kernel⟩
  have served : (Link.of settings attempts).IsServed := by
    refine ⟨rfl, foreseen.outcome rfl, fun number socket found _ => ?_⟩
    have listened : ∀ attempt ∈ attempts,
        ∀ socket, attempt = .opened socket → endByClosing socket.stream = true := by
      simp [attempts, endByClosing]
    exact listened _ (List.mem_of_getElem? found) socket rfl
  obtain ⟨answer, gaveUp⟩ := (run_givesUp settings attempts served).2 none
  exact ⟨served, answer, gaveUp, by decide +kernel⟩

end Link

end SceneEditor
