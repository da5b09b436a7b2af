import SceneEditor.Proofs.Link.RunSchedule

namespace SceneEditor

/-!
# What a run survives

A run whose address can be read goes on whatever becomes of its attempts and its streams, with one
exception.  When a stream breaks, the socket is closed and the run waits for a second before it
stops the sender.  A sender that takes a text in that second finds no socket, and its failure is
none of those that the run is made for: it escapes, and the queue is left as it is.

In every other case the sender ends, the queue is emptied, and unless it was asked to disconnect the
run tries to connect again.  It returns only when it was asked to, or when it has failed too often.
-/

/-- The fault is one that an attempt to connect may have. -/
def HandshakeItem.isExpected : HandshakeItem → Bool
  | .fault .broken => false
  | _ => true

/-- Each failure of the attempt is one that connecting puts up with. -/
def Attempt.isExpected : Attempt → Bool
  | .fault .broken => false
  | .fault _ => true
  | .opened socket => socket.handshake.all HandshakeItem.isExpected

namespace Link

/-- Every attempt that is to come succeeds or fails in a way that the run is made for. -/
structure IsForeseen (link : Link) : Prop where
  address : (Address.host? link.settings.url).isSome = true
  attempts : ∀ attempt ∈ link.attempts, attempt.isExpected = true

/-- The same of the handshake on a socket. -/
def IsShaking (link : Link) : Prop :=
  ∀ socket, link.socket? = some socket → socket.handshake.all HandshakeItem.isExpected = true

/-- Fewer attempts are still foreseen. -/
theorem IsForeseen.of_subset
    {link later : Link}
    (foreseen : link.IsForeseen)
    (settings : later.settings = link.settings)
    (attempts : later.attempts ⊆ link.attempts) :
    later.IsForeseen where
  address := settings ▸ foreseen.address
  attempts attempt member := foreseen.attempts attempt (attempts member)

/-- What keeps the attempts keeps them foreseen. -/
theorem IsForeseen.of_keeps
    {link later : Link}
    (foreseen : link.IsForeseen)
    (kept : link.Keeps later) :
    later.IsForeseen :=
  foreseen.of_subset kept.settings (kept.attempts ▸ fun _ member => member)

end Link

/-- A socket has been opened for the attempt. -/
def Dial.isShaking : Dial → Bool
  | calling | opening => false
  | _ => true

/-- A step of an attempt fails as expected, or it leads to where a socket is. -/
def Dial.Proceeds (later : Link) : Except LinkFailure (Option Dial) → Prop
  | .error failure => failure.isExpected = true
  | .ok none => True
  | .ok (some next) => next.isShaking = true → later.IsShaking

namespace Link

variable {link later : Link} {result : Except LinkFailure (Option Dial)}

theorem proceeds_writeThen
    {frame : Frame}
    {next : Dial}
    (shaking : link.IsShaking)
    (written : link.writeThen frame next = (later, result)) :
    Dial.Proceeds later result := by
  unfold writeThen at written
  have writes := link.write_writes frame
  generalize link.write frame = outcome at writes written
  cases writes with
  | missing _ =>
      obtain ⟨rfl, rfl⟩ := Prod.mk.inj written
      rfl
  | fails _ _ =>
      obtain ⟨rfl, rfl⟩ := Prod.mk.inj written
      rfl
  | @succeeds socket counted present same =>
      obtain ⟨rfl, rfl⟩ := Prod.mk.inj written
      intro _ other found
      obtain rfl := Option.some.inj found
      rw [same]
      exact shaking socket present

/-- A refusal by the server is expected. -/
theorem isExpected_of_judge
    {message : Message}
    {failure : LinkFailure}
    (judged : judge message = .error failure) :
    failure.isExpected = true := by
  unfold judge at judged
  split at judged
  · cases judged
    rfl
  · cases judged
  · split at judged
    · cases judged
    · split at judged <;>
        · cases judged
          rfl

theorem proceeds_hear
    (shaking : link.IsShaking)
    (heard : link.hear = (later, result)) :
    Dial.Proceeds later result := by
  unfold hear at heard
  split at heard
  · obtain ⟨rfl, rfl⟩ := Prod.mk.inj heard
    rfl
  · next socket present =>
    have expected := shaking socket present
    split at heard
    · obtain ⟨rfl, rfl⟩ := Prod.mk.inj heard
      rfl
    · next fault handshake items =>
      obtain ⟨rfl, rfl⟩ := Prod.mk.inj heard
      rw [items] at expected
      cases fault <;> simp_all [HandshakeItem.isExpected, Dial.Proceeds, LinkFailure.isExpected]
    · next message handshake items =>
      obtain ⟨rfl, rfl⟩ := Prod.mk.inj heard
      cases judged : judge message with
      | error failure =>
          exact isExpected_of_judge judged
      | ok answered =>
          intro _ other found
          obtain rfl := Option.some.inj found
          rw [items] at expected
          exact (Bool.and_eq_true_iff.mp expected).2

/-- Each stage of a foreseen attempt proceeds, or fails in an expected way. -/
theorem proceeds_dial
    {stage : Dial}
    (foreseen : link.IsForeseen)
    (shaking : stage.isShaking = true → link.IsShaking)
    (dialled : link.dial stage = (later, result)) :
    Dial.Proceeds later result := by
  cases stage with
  | calling =>
      simp only [dial] at dialled
      split at dialled <;>
        obtain ⟨rfl, rfl⟩ := Prod.mk.inj dialled
      · rfl
      · exact fun shaken => absurd shaken Bool.false_ne_true
  | opening =>
      simp only [dial] at dialled
      split at dialled <;>
        obtain ⟨rfl, rfl⟩ := Prod.mk.inj dialled
      · rfl
      · next fault attempts used =>
        have expected := foreseen.attempts (.fault fault) (by simp [used])
        cases fault <;> simp_all [Attempt.isExpected, Dial.Proceeds, LinkFailure.isExpected]
      · next socket attempts used =>
        obtain ⟨host, found⟩ := Address.host?_isSome_iff.mp foreseen.address
        rw [found]
        intro _ other present
        obtain rfl := Option.some.inj present
        exact foreseen.attempts (.opened socket) (by simp [used])
  | greeting host =>
      exact proceeds_writeThen (shaking rfl) dialled
  | awaiting =>
      exact proceeds_hear (shaking rfl) dialled
  | subscribing =>
      exact proceeds_writeThen (shaking rfl) dialled
  | subscribed =>
      obtain ⟨rfl, rfl⟩ := Prod.mk.inj dialled
      trivial

end Link

/-!
## What holds at every moment
-/

namespace Stage

/-- There is no sender. -/
def isAlone : Stage → Bool
  | ready | dialling _ | abandoning | resting | leaving _ | finished => true
  | _ => false

/-- There may be a sender, and then there is a socket. -/
def isOpen : Stage → Bool
  | listening _ | parting _ | parted _ | dismissing _ | breaking => true
  | _ => false

/-- The stream has ended, and the sender has not yet. -/
def hasEnded : Stage → Bool
  | breaking | pausing | stopping => true
  | _ => false

end Stage

/-- The steps that a run still takes after a stream has ended. -/
def Stage.effort : Stage → Nat
  | breaking => 3
  | pausing => 2
  | stopping => 1
  | _ => 0

/-- The steps that a sender still takes, if it takes no more texts. -/
def SenderStage.effort : SenderStage → Nat
  | holding _ => 3
  | sent => 2
  | waiting => 1
  | _ => 0

theorem SenderStage.effort_pos
    {sender : SenderStage}
    (alive : sender.isAlive = true) :
    0 < sender.effort := by
  cases sender <;> simp_all [isAlive, effort]

/-- A sender is gone, alive or stranded. -/
theorem SenderStage.gone_or_alive
    (sender : SenderStage) :
    sender.isGone = true ∨ sender.isAlive = true ∨ sender = .stranded := by
  cases sender <;> simp [isGone, isAlive]

namespace Moment

/-- What makes sure that a run survives. -/
structure Sound (moment : Moment) : Prop where
  foreseen : moment.link.IsForeseen
  shaking :
    ∀ dial, moment.stage = .dialling dial → dial.isShaking = true → moment.link.IsShaking
  alone : moment.stage.isAlone = true → moment.sender = .absent
  attended :
    moment.stage.isOpen = true →
      moment.sender.isAlive = true → moment.link.socket?.isSome = true
  found : moment.stage.isOpen = true → moment.sender ≠ .stranded
  escapes :
    ∀ failure,
      moment.stage = .escaped failure → failure = .notConnected ∧ moment.sender = .stranded
  returns :
    moment.stage = .finished →
      moment.link.running = false
        ∨ moment.link.settings.maxReconnectAttempts < moment.link.failures

namespace Sound

variable {link later : Link} {stage next : Stage} {sender : SenderStage}

/-- A run of a foreseen link starts sound. -/
theorem start
    (foreseen : link.IsForeseen) :
    Sound (Moment.start link) where
  foreseen := ⟨foreseen.address, foreseen.attempts⟩
  shaking _ dialling := nomatch dialling
  alone _ := rfl
  attended isOpen := nomatch isOpen
  found isOpen := nomatch isOpen
  escapes _ escaped := nomatch escaped
  returns finished := nomatch finished

/-- A stage without a sender that is no attempt and no end. -/
theorem of_alone
    (foreseen : link.IsForeseen)
    (alone : next.isAlone = true)
    (plain : next ≠ .finished ∧ ∀ dial, next ≠ .dialling dial) :
    Sound ⟨link, next, .absent⟩ where
  foreseen := foreseen
  shaking dial dialling := absurd dialling (plain.2 dial)
  alone _ := rfl
  attended _ alive := nomatch alive
  found _ stranded := nomatch stranded
  escapes _ escaped := by
    simp only at escaped
    simp [escaped, Stage.isAlone] at alone
  returns finished := absurd finished plain.1

/-- An attempt of a foreseen link is sound. -/
theorem of_dialling
    {dial : Dial}
    (foreseen : link.IsForeseen)
    (shaking : dial.isShaking = true → link.IsShaking) :
    Sound ⟨link, .dialling dial, .absent⟩ where
  foreseen := foreseen
  shaking _ dialling := (Stage.dialling.inj dialling) ▸ shaking
  alone _ := rfl
  attended isOpen := nomatch isOpen
  found isOpen := nomatch isOpen
  escapes _ escaped := nomatch escaped
  returns finished := nomatch finished

/-- An open connection with its sender on a socket is sound. -/
theorem of_open
    (foreseen : link.IsForeseen)
    (isOpen : next.isOpen = true)
    (attended : sender.isAlive = true → link.socket?.isSome = true)
    (found : sender ≠ .stranded) :
    Sound ⟨link, next, sender⟩ where
  foreseen := foreseen
  shaking _ dialling := by
    simp only at dialling
    simp [dialling, Stage.isOpen] at isOpen
  alone alone := by
    simp only at alone
    cases next <;> simp_all [Stage.isOpen, Stage.isAlone]
  attended _ := attended
  found _ := found
  escapes _ escaped := by
    simp only at escaped
    simp [escaped, Stage.isOpen] at isOpen
  returns finished := by
    simp only at finished
    simp [finished, Stage.isOpen] at isOpen

/-- A run that pauses or stops is sound, whatever its sender does. -/
theorem of_waiting
    (foreseen : link.IsForeseen)
    (waiting : next = .pausing ∨ next = .stopping) :
    Sound ⟨link, next, sender⟩ := by
  rcases waiting with rfl | rfl <;>
    exact ⟨foreseen, nofun, nofun, nofun, nofun, nofun, nofun⟩

/-- A run that ends because it was told to, or because it gave up, is sound. -/
theorem of_finished
    (foreseen : link.IsForeseen)
    (returns :
      link.running = false ∨ link.settings.maxReconnectAttempts < link.failures) :
    Sound ⟨link, .finished, .absent⟩ :=
  ⟨foreseen, nofun, fun _ => rfl, nofun, nofun, nofun, fun _ => returns⟩

theorem runStep
    {moment later : Moment}
    (sound : moment.Sound)
    (step : Schedule.RunStep moment later) :
    later.Sound := by
  -- A step leads to a stage without a sender, into an attempt, to an open stage, or to where the
  -- run waits after a stream; each of these is one lemma, and asks only for what it needs.
  have foreseen := sound.foreseen
  cases step with
  | finish off =>
      obtain rfl := sound.alone rfl
      exact .of_finished foreseen (.inl off)
  | call on apart =>
      obtain rfl := sound.alone rfl
      exact .of_dialling ⟨foreseen.address, foreseen.attempts⟩ nofun
  | dial dialled =>
      obtain rfl := sound.alone rfl
      have kept := Link.Dialled.of_dial dialled
      have proceeds := Link.proceeds_dial foreseen (sound.shaking _ rfl) dialled
      exact .of_dialling (foreseen.of_subset kept.settings kept.attempts) proceeds
  | connect dialled =>
      obtain rfl := sound.alone rfl
      have kept := Link.Dialled.of_dial dialled
      have later := foreseen.of_subset kept.settings kept.attempts
      exact .of_alone ⟨later.address, later.attempts⟩ rfl ⟨nofun, nofun⟩
  | fail dialled expected =>
      obtain rfl := sound.alone rfl
      have kept := Link.Dialled.of_dial dialled
      have later := foreseen.of_subset kept.settings kept.attempts
      exact .of_alone ⟨later.address, later.attempts⟩ rfl ⟨nofun, nofun⟩
  | escape dialled unexpected =>
      have expected := Link.proceeds_dial foreseen (sound.shaking _ rfl) dialled
      exact absurd (unexpected.symm.trans expected) (by simp)
  | giveUp exhausted =>
      obtain rfl := sound.alone rfl
      have later := foreseen.of_keeps (Link.keeps_closeSocket _)
      exact .of_finished ⟨later.address, later.attempts⟩ (.inr exhausted)
  | rest patient =>
      obtain rfl := sound.alone rfl
      have later := foreseen.of_keeps (Link.keeps_closeSocket _)
      exact .of_alone ⟨later.address, later.attempts⟩ rfl ⟨nofun, nofun⟩
  | wake =>
      obtain rfl := sound.alone rfl
      exact .of_alone foreseen rfl ⟨nofun, nofun⟩
  | listen on connected =>
      have present := (Bool.and_eq_true_iff.mp connected).2
      exact .of_open ⟨foreseen.address, foreseen.attempts⟩ rfl (fun _ => present) nofun
  | @message link message items sender listener? =>
      have handled := link.tells_handle listener? message
      exact .of_open (foreseen.of_keeps handled.keeps) rfl
        (fun alive => handled.socket? ▸ sound.attended rfl alive) (sound.found rfl)
  | @publish link text waits items sender =>
      have sameSocket := (link.offer_fields text).2
      exact .of_open (foreseen.of_keeps (Link.keeps_offer _ _)) rfl
        (fun alive => sameSocket ▸ sound.attended rfl alive) (sound.found rfl)
  | farewell written =>
      have later := foreseen.of_keeps (Link.keeps_of_write written)
      have present := Link.isSome_of_write written
      exact .of_open ⟨later.address, later.attempts⟩ rfl
        (fun alive => present (sound.attended rfl alive)) (sound.found rfl)
  | dismissed gone =>
      exact .of_alone (foreseen.of_keeps (Link.keeps_stopSender _)) rfl ⟨nofun, nofun⟩
  | leave =>
      obtain rfl := sound.alone rfl
      have later := foreseen.of_keeps (Link.keeps_closeSocket _)
      exact .of_open ⟨later.address, later.attempts⟩ rfl nofun nofun
  | streamEnds =>
      exact .of_waiting (foreseen.of_keeps (Link.keeps_noteEnd _ _)) (.inr rfl)
  | streamCloses =>
      exact .of_waiting (foreseen.of_keeps (Link.keeps_noteEnd _ _)) (.inr rfl)
  | @streamBreaks fault link items sender unforeseen =>
      have noted := link.tells_noteBreak fault
      exact .of_open (foreseen.of_keeps noted.keeps) rfl
        (fun alive => noted.socket? ▸ sound.attended rfl alive) (sound.found rfl)
  | pause =>
      have later := foreseen.of_keeps (Link.keeps_closeSocket _)
      exact .of_waiting ⟨later.address, later.attempts⟩ (.inl rfl)
  | resume =>
      exact .of_waiting foreseen (.inr rfl)
  | reconnect gone on =>
      have later := foreseen.of_keeps (Link.keeps_stopSender _)
      exact .of_alone ⟨later.address, later.attempts⟩ rfl ⟨nofun, nofun⟩
  | wind gone off =>
      exact .of_alone (foreseen.of_keeps (Link.keeps_stopSender _)) rfl ⟨nofun, nofun⟩
  | reraise =>
      refine ⟨foreseen, nofun, nofun, nofun, nofun, fun _ escaped => ?_, nofun⟩
      exact ⟨(Stage.escaped.inj escaped).symm, rfl⟩
  | _ =>
      exact .of_open ⟨foreseen.address, foreseen.attempts⟩ rfl (sound.attended rfl)
        (sound.found rfl)

/-- A step of the sender leaves the run where it stands, and the socket as well. -/
theorem of_alive
    {follower : SenderStage}
    (sound : Sound ⟨link, stage, sender⟩)
    (alive : sender.isAlive = true)
    (kept : link.Keeps later)
    (present : link.socket?.isSome = true → later.socket?.isSome = true)
    (found : stage.isOpen = true → follower ≠ .stranded) :
    Sound ⟨later, stage, follower⟩ := by
  have accompanied : stage.isAlone = false := by
    refine Bool.eq_false_iff.mpr fun alone => ?_
    obtain rfl := sound.alone alone
    simp [SenderStage.isAlive] at alive
  refine ⟨sound.foreseen.of_keeps kept, ?_, ?_, ?_, found, ?_, ?_⟩
  · rintro dial rfl
    simp [Stage.isAlone] at accompanied
  · intro alone
    exact absurd (accompanied.symm.trans alone) (by simp)
  · exact fun isOpen _ => present (sound.attended isOpen alive)
  · intro failure escaped
    obtain ⟨-, rfl⟩ := sound.escapes failure escaped
    simp [SenderStage.isAlive] at alive
  · rintro rfl
    simp [Stage.isAlone] at accompanied

theorem senderStep
    {moment later : Moment}
    (sound : moment.Sound)
    (step : Schedule.SenderStep moment later) :
    later.Sound := by
  cases step with
  | take undisturbed queued present =>
      exact sound.of_alive rfl ⟨rfl, rfl, rfl⟩ id nofun
  | strand undisturbed queued missing =>
      refine sound.of_alive rfl ⟨rfl, rfl, rfl⟩ id fun isOpen => ?_
      have present := sound.attended isOpen rfl
      simp [missing] at present
  | send undisturbed written =>
      exact sound.of_alive rfl (Link.keeps_of_write written) (Link.isSome_of_write written) nofun
  | sendLate undisturbed missing =>
      exact sound.of_alive rfl ⟨rfl, rfl, rfl⟩ id nofun
  | lose undisturbed failed =>
      have kept := Link.keeps_of_write failed
      have present := Link.isSome_of_write failed
      exact sound.of_alive rfl ⟨kept.settings, kept.attempts, kept.failures⟩ present nofun
  | loseLate undisturbed =>
      exact sound.of_alive rfl ⟨rfl, rfl, rfl⟩ id nofun
  | comeBack undisturbed =>
      exact sound.of_alive rfl (.refl _) id nofun
  | cancel dismissed alive =>
      exact sound.of_alive alive (.refl _) id nofun

/-- Offering a text keeps the run sound. -/
theorem offer
    (sound : Sound ⟨link, stage, sender⟩)
    (text : String)
    (on : stage.isOver = false) :
    Sound ⟨link.offer text, stage, sender⟩ := by
  have kept := link.keeps_offer text
  have sameSocket := (link.offer_fields text).2
  refine
    ⟨sound.foreseen.of_keeps kept, ?_, sound.alone, ?_, sound.found, sound.escapes, ?_⟩
  · simpa only [Link.IsShaking, sameSocket] using sound.shaking
  · simpa only [sameSocket] using sound.attended
  · rintro rfl
    simp [Stage.isOver] at on

/-- Any step keeps the run sound. -/
theorem step
    {moment later : Moment}
    (sound : moment.Sound)
    (step : Schedule.Step moment later) :
    later.Sound := by
  cases step with
  | run step =>
      exact sound.runStep step
  | sender step =>
      exact sound.senderStep step
  | publish text on =>
      exact sound.offer text on

/-- A run stays sound through any schedule. -/
theorem reaches
    {moment later : Moment}
    (sound : moment.Sound)
    (schedule : Schedule.Reaches moment later) :
    later.Sound := by
  induction schedule with
  | refl =>
      exact sound
  | tail _ step inductionHypothesis =>
      exact inductionHypothesis.step step

end Sound

/-!
## Where a text finds no socket
-/

open Schedule

variable {moment later : Moment}

/-- A step of the run leaves the sender alone, starts it or ends it. -/
theorem sender_of_runStep
    (step : RunStep moment later) :
    later.sender = moment.sender ∨ later.sender = .absent ∨ later.sender = .waiting := by
  cases step <;> simp

/-- The only place without a socket where a sender waits for texts is the pause after a break. -/
theorem Sound.pausing_of_missing
    {link : Link}
    {stage : Stage}
    (sound : Sound ⟨link, stage, .waiting⟩)
    (undisturbed : stage.isDismissal = false)
    (missing : link.socket? = none) :
    stage = .pausing := by
  have unopened : stage.isOpen = false := by
    refine Bool.eq_false_iff.mpr fun isOpen => ?_
    have present := sound.attended isOpen rfl
    simp [missing] at present
  have accompanied : stage.isAlone = false := by
    refine Bool.eq_false_iff.mpr fun alone => ?_
    exact nomatch sound.alone alone
  cases stage with
  | pausing =>
      rfl
  | escaped failure =>
      exact nomatch (sound.escapes failure rfl).2
  | _ =>
      simp_all [Stage.isOpen, Stage.isAlone, Stage.isDismissal]

/-- A schedule in which the sender took a text while the run paused after a break. -/
def TookInPause (link : Link) (moment : Moment) : Prop :=
  ∃ pause text rest,
    Reaches (start link) pause
      ∧ pause.stage = .pausing
      ∧ pause.sender = .waiting
      ∧ pause.link.queue = text :: rest
      ∧ Reaches pause moment

/-- A stranded sender took a text while the run paused. -/
theorem tookInPause_of_stranded
    {link : Link}
    (foreseen : link.IsForeseen)
    (schedule : Reaches (start link) moment)
    (stranded : moment.sender = .stranded) :
    TookInPause link moment := by
  -- The step that strands the sender is its own, and it finds the run in the pause.
  induction schedule with
  | refl =>
      exact nomatch stranded
  | @tail earlier later before step inductionHypothesis =>
      by_cases already : earlier.sender = .stranded
      · obtain ⟨pause, text, rest, paused, stage, sender, queue, after⟩ :=
          inductionHypothesis already
        exact ⟨pause, text, rest, paused, stage, sender, queue, after.tail step⟩
      · have sound := (Sound.start foreseen).reaches before
        cases step with
        | run step =>
            rcases sender_of_runStep step with same | absent | waiting
            · exact absurd (same.symm.trans stranded) already
            · exact nomatch absent.symm.trans stranded
            · exact nomatch waiting.symm.trans stranded
        | publish text on =>
            exact absurd stranded already
        | sender step =>
            cases step with
            | strand undisturbed queued missing =>
                have paused := sound.pausing_of_missing undisturbed missing
                have strands := SenderStep.strand undisturbed queued missing
                exact ⟨_, _, _, before, paused, rfl, queued, .single (.sender strands)⟩
            | _ =>
                exact nomatch stranded

/-!
## A run goes on
-/

/-- A sound run that is not over can go on. -/
theorem Sound.goesOn
    (sound : moment.Sound)
    (on : moment.stage.isOver = false) :
    ∃ later, RunStep moment later ∨ SenderStep moment later := by
  obtain ⟨link, stage, sender⟩ := moment
  cases stage with
  | ready =>
      cases running : link.running with
      | false =>
          exact ⟨_, .inl (.finish running)⟩
      | true =>
          cases connected : link.isConnected with
          | false =>
              exact ⟨_, .inl (.call running connected)⟩
          | true =>
              exact ⟨_, .inl (.listen running connected)⟩
  | dialling dial =>
      cases outcome : link.dial dial with
      | mk later result =>
          match result with
          | .ok none =>
              exact ⟨_, .inl (.connect outcome)⟩
          | .ok (some next) =>
              exact ⟨_, .inl (.dial outcome)⟩
          | .error failure =>
              have expected := Link.proceeds_dial sound.foreseen (sound.shaking _ rfl) outcome
              exact ⟨_, .inl (.fail outcome expected)⟩
  | abandoning =>
      by_cases exhausted :
          link.abandon.settings.maxReconnectAttempts < link.abandon.failures
      · exact ⟨_, .inl (.giveUp exhausted)⟩
      · exact ⟨_, .inl (.rest exhausted)⟩
  | resting =>
      exact ⟨_, .inl .wake⟩
  | listening items =>
      cases items with
      | nil =>
          exact ⟨_, .inl .streamEnds⟩
      | cons item rest =>
          cases item with
          | message message =>
              exact ⟨⟨link.handle none message, .listening rest, sender⟩, .inl .message⟩
          | publish text waits =>
              exact ⟨_, .inl .publish⟩
          | disconnect =>
              cases connected : link.isConnected with
              | false =>
                  exact ⟨_, .inl (.partUnseen connected)⟩
              | true =>
                  exact ⟨_, .inl (.part connected)⟩
          | fault fault =>
              by_cases closed : fault = .closed
              · subst closed
                exact ⟨_, .inl .streamCloses⟩
              · exact ⟨_, .inl (.streamBreaks closed)⟩
  | parting items =>
      exact ⟨_, .inl (.farewell rfl)⟩
  | parted items =>
      exact ⟨_, .inl .dismiss⟩
  | dismissing items =>
      rcases sender.gone_or_alive with gone | alive | rfl
      · exact ⟨_, .inl (.dismissed gone)⟩
      · exact ⟨_, .inr (.cancel rfl alive)⟩
      · exact absurd rfl (sound.found rfl)
  | leaving items =>
      exact ⟨_, .inl .leave⟩
  | breaking =>
      exact ⟨_, .inl .pause⟩
  | pausing =>
      exact ⟨_, .inl .resume⟩
  | stopping =>
      rcases sender.gone_or_alive with gone | alive | rfl
      · cases running : link.running with
        | false =>
            exact ⟨_, .inl (.wind gone running)⟩
        | true =>
            exact ⟨_, .inl (.reconnect gone running)⟩
      · exact ⟨_, .inr (.cancel rfl alive)⟩
      · exact ⟨_, .inl .reraise⟩
  | finished =>
      exact nomatch on
  | escaped failure =>
      exact nomatch on

/-!
## After a stream
-/

/-- All has been done that the end of a stream asks for. -/
structure HasRecovered (moment : Moment) : Prop where
  stage : moment.stage = .ready
  sender : moment.sender = .absent
  queue : moment.link.queue = []
  reconnecting :
    moment.link.running = true →
      moment.link.state = .reconnecting ∧ moment.link.socket? = none

/-- What is still to be done after a stream has ended. -/
def effort (moment : Moment) : Nat :=
  moment.stage.effort + moment.sender.effort + 3 * moment.link.queue.length

/-- A stream that has ended stays so until all is done, or the failure of the sender escapes. -/
theorem recovers
    (ended : moment.stage.hasEnded = true)
    (step : Step moment later) :
    later.stage.hasEnded = true
      ∨ later.HasRecovered
      ∨ moment.sender = .stranded ∧ later.stage = .escaped .notConnected := by
  cases step with
  | publish text on =>
      exact .inl ended
  | sender step =>
      have same : later.stage = moment.stage := by cases step <;> rfl
      exact .inl (same ▸ ended)
  | run step =>
      cases step with
      | pause =>
          exact .inl rfl
      | resume =>
          exact .inl rfl
      | reconnect gone on =>
          exact .inr (.inl ⟨rfl, rfl, Link.stopSender_queue _, fun _ => ⟨rfl, rfl⟩⟩)
      | @wind link sender gone off =>
          have stillOff : link.stopSender.running = false := link.stopSender_running.trans off
          refine .inr (.inl ⟨rfl, rfl, link.stopSender_queue, fun on => ?_⟩)
          exact absurd (stillOff.symm.trans on) (by simp)
      | reraise =>
          exact .inr (.inr ⟨rfl, rfl⟩)
      | _ =>
          exact absurd ended Bool.false_ne_true

/-- A step of the run behind the end of its stream takes effort away. -/
theorem effort_of_runStep
    (ended : moment.stage.hasEnded = true)
    (step : RunStep moment later) :
    later.effort < moment.effort := by
  cases step with
  | pause =>
      simp [effort, Stage.effort, Link.record, Link.closeSocket_queue]
  | resume =>
      simp [effort, Stage.effort]
  | reconnect gone on =>
      simp only [effort, Stage.effort, SenderStage.effort, Link.stopSender_queue, List.length_nil]
      omega
  | wind gone off =>
      simp only [effort, Stage.effort, SenderStage.effort, Link.stopSender_queue, List.length_nil]
      omega
  | reraise =>
      simp [effort, Stage.effort]
  | _ =>
      exact absurd ended Bool.false_ne_true

/-- A step of the sender takes effort away. -/
theorem effort_of_senderStep
    (step : SenderStep moment later) :
    later.effort < moment.effort := by
  cases step with
  | take undisturbed queued present =>
      simp only [effort, SenderStage.effort, queued, List.length_cons]
      omega
  | strand undisturbed queued missing =>
      simp only [effort, SenderStage.effort, queued, List.length_cons]
      omega
  | send undisturbed written =>
      simp [effort, SenderStage.effort, Link.queue_of_write written]
  | lose undisturbed failed =>
      simp [effort, SenderStage.effort, Link.queue_of_write failed]
  | cancel dismissed alive =>
      have positive := SenderStage.effort_pos alive
      have spent : SenderStage.cancelled.effort = 0 := rfl
      simp only [effort, spent]
      omega
  | _ =>
      simp [effort, SenderStage.effort, Link.record]

/-- A stream ends, or its next item is a fault. -/
theorem ends
    {link : Link}
    {items : List StreamItem}
    {sender : SenderStage}
    (atEnd : ∀ item ∈ items.head?, ∃ fault, item = .fault fault)
    (step : RunStep ⟨link, .listening items, sender⟩ later) :
    later.stage.hasEnded = true := by
  cases step with
  | streamEnds =>
      rfl
  | streamCloses =>
      rfl
  | streamBreaks unforeseen =>
      rfl
  | _ =>
      obtain ⟨fault, isFault⟩ := atEnd _ rfl
      exact nomatch isFault

/-- A run that is not connected tries to connect. -/
theorem connects
    {link : Link}
    {sender : SenderStage}
    (on : link.running = true)
    (apart : link.isConnected = false)
    (step : RunStep ⟨link, .ready, sender⟩ later) :
    later.stage = .dialling .calling := by
  cases step with
  | finish off =>
      exact absurd (off.symm.trans on) (by simp)
  | listen _ connected =>
      exact absurd (apart.symm.trans connected) (by simp)
  | call _ _ =>
      rfl

/-- What can be said of every moment of a run. -/
structure Survives (link : Link) (moment : Moment) : Prop where
  /-- Something escapes only if the sender took a text in the pause after a break. -/
  escapes :
    ∀ failure,
      moment.stage = .escaped failure → failure = .notConnected ∧ TookInPause link moment
  /-- It returns only after it was asked to disconnect, or when it has failed too often. -/
  returns :
    moment.stage = .finished →
      moment.link.running = false
        ∨ moment.link.settings.maxReconnectAttempts < moment.link.failures
  /-- Until it has returned or something has escaped, a task can go on. -/
  goesOn :
    moment.stage.isOver = false → ∃ later, RunStep moment later ∨ SenderStep moment later
  /-- However a stream ends, and whatever is queued then, the end is dealt with: -/
  ends :
    ∀ items,
      moment.stage = .listening items →
        (∀ item ∈ items.head?, ∃ fault, item = .fault fault) →
          ∀ later, RunStep moment later → later.stage.hasEnded = true
  /-- the sender ends and the queue is emptied, unless the failure of the sender escapes, -/
  recovers :
    moment.stage.hasEnded = true →
      ∀ later,
        Step moment later →
          later.stage.hasEnded = true
            ∨ later.HasRecovered
            ∨ moment.sender = .stranded ∧ later.stage = .escaped .notConnected
  /-- after as many steps as there is effort left, unless more texts are published, -/
  settles :
    moment.stage.hasEnded = true →
      ∀ later,
        RunStep moment later ∨ SenderStep moment later → later.effort < moment.effort
  /-- and then the run tries to connect again, unless it was asked to disconnect. -/
  reconnects :
    moment.stage = .ready →
      moment.link.running = true →
        moment.link.isConnected = false →
          ∀ later, RunStep moment later → later.stage = .dialling .calling

/-- A foreseen link survives any schedule. -/
theorem survives
    {link : Link}
    (foreseen : link.IsForeseen)
    (schedule : Reaches (start link) moment) :
    Survives link moment := by
  have sound := (Sound.start foreseen).reaches schedule
  obtain ⟨present, stage, sender⟩ := moment
  refine ⟨?_, sound.returns, sound.goesOn, ?_, ?_, ?_, ?_⟩
  · intro failure escaped
    obtain ⟨same, stranded⟩ := sound.escapes failure escaped
    exact ⟨same, tookInPause_of_stranded foreseen schedule stranded⟩
  · rintro items rfl atEnd later step
    exact ends atEnd step
  · exact fun ended later step => recovers ended step
  · rintro ended later (step | step)
    · exact effort_of_runStep ended step
    · exact effort_of_senderStep step
  · rintro rfl on apart later step
    exact connects on apart step

end Moment

/-- A run whose attempts fail as expected survives, but for a text that is taken in a pause. -/
theorem Link.run_survives
    (link : Link)
    (foreseen : link.IsForeseen) :
    (∀ moment,
      Schedule.Reaches (Moment.start link) moment → Moment.Survives link moment)
      ∧ ∀ listener?,
        (link.run listener?).2 = none
          ∧ ((link.run listener?).1.running = false
            ∨ (link.run listener?).1.settings.maxReconnectAttempts
              < (link.run listener?).1.failures) := by
  refine ⟨fun moment schedule => Moment.survives foreseen schedule, fun listener? => ?_⟩
  have sound := (Moment.Sound.start foreseen).reaches (Schedule.reaches_end listener? link)
  cases outcome : (link.run listener?).2 with
  | some failure =>
      rw [outcome] at sound
      exact nomatch (sound.escapes failure rfl).2
  | none =>
      rw [outcome] at sound
      exact ⟨rfl, sound.returns rfl⟩

/-- A run on a socket that closes with a text in the queue returns after the attempt that fails. -/
theorem Link.run_survives_close :
    (Link.onSocket [.publish "Play" true, .fault .closed]).IsForeseen
      ∧ ((Link.onSocket [.publish "Play" true, .fault .closed]).run none).2 = none := by
  have foreseen : (Link.onSocket [.publish "Play" true, .fault .closed]).IsForeseen :=
    ⟨by decide +kernel, by decide +kernel⟩
  exact ⟨foreseen, ((Link.run_survives _ foreseen).2 none).1⟩

/-!
## What a run does not survive
-/

namespace Schedule

/-- If a text is queued when a stream breaks, there is a schedule that escapes. -/
theorem reaches_escape
    {link : Link}
    {text : String}
    {rest : List String}
    {fault : Fault}
    {items : List StreamItem}
    (queued : link.queue = text :: rest)
    (unforeseen : fault ≠ .closed) :
    ∃ moment,
      Reaches ⟨link, .listening (.fault fault :: items), .waiting⟩ moment
        ∧ moment.stage = .escaped .notConnected := by
  have paused :
      Reaches
        ⟨link, .listening (.fault fault :: items), .waiting⟩
        ⟨(link.noteBreak fault).closeSocket.record (.slept 1), .pausing, .waiting⟩ :=
    (reaches_run (.streamBreaks unforeseen)).trans (reaches_run .pause)
  have stillQueued :
      ((link.noteBreak fault).closeSocket.record (.slept 1)).queue = text :: rest :=
    (Link.closeSocket_queue _).trans queued
  have missing : ((link.noteBreak fault).closeSocket.record (.slept 1)).socket? = none :=
    Link.closeSocket_socket? _
  have stranded := paused.trans (reaches_sender (.strand rfl stillQueued missing))
  exact ⟨_, (stranded.trans (reaches_run .resume)).trans (reaches_run .reraise), rfl⟩

/-- A run whose attempt succeeds comes to listen to the stream. -/
theorem reaches_listening
    {link later : Link}
    (apart : link.isConnected = false)
    (established :
      Link.establish { link with running := true, state := .connecting } = (later, none)) :
    Reaches
      (Moment.start link)
      ⟨{ later with state := .connected, failures := 0, sender := .working },
        .listening later.stream, .waiting⟩ := by
  have made := Link.establishes established
  have connected : { later with state := .connected, failures := 0 }.isConnected = true :=
    made.present rfl
  have called :
      Reaches
        (Moment.start link)
        ⟨{ link with running := true, state := .connecting }, .dialling .calling, .absent⟩ :=
    reaches_run (.call rfl apart)
  have dialled := called.trans (reaches_establish _)
  rw [established] at dialled
  exact dialled.trans (reaches_run (.listen made.running connected))

end Schedule

/--
A text is published, the stream breaks, and the sender takes the text during the pause.  Nor does a
run survive an address that cannot be read, although every attempt goes well.
-/
theorem Link.run_escapes :
    ((Link.onSocket [.publish "Play" true, .fault .broken]).IsForeseen
        ∧ ∃ moment,
          Schedule.Reaches
              (Moment.start (.onSocket [.publish "Play" true, .fault .broken])) moment
            ∧ moment.stage = .escaped .notConnected)
      ∧ (∀ attempt ∈ (Link.onSocket []).attempts, attempt.isExpected = true)
      ∧ ({ Link.onSocket [] with settings := { url := "ws://[::1" } }.run none).2 =
        some (.badAddress .unpaired) := by
  refine ⟨⟨⟨by decide +kernel, by decide +kernel⟩, ?_⟩, by decide +kernel, by decide +kernel⟩
  have facts :
      let dialled :=
        Link.establish
          { Link.onSocket [.publish "Play" true, .fault .broken] with
            running := true
            state := .connecting }
      dialled.2 = none
        ∧ dialled.1.stream = [.publish "Play" true, .fault .broken]
        ∧ dialled.1.queue = [] := by
    decide +kernel
  cases established :
      Link.establish
        { Link.onSocket [.publish "Play" true, .fault .broken] with
          running := true
          state := .connecting } with
  | mk later failure? =>
      rw [established] at facts
      obtain ⟨rfl, stream, empty⟩ := facts
      have listening := Schedule.reaches_listening rfl established
      rw [stream] at listening
      have connected :
          { later with state := .connected, failures := 0, sender := .working }.isConnected =
            true :=
        (Link.establishes established).present rfl
      have queued :
          ({ later with state := .connected, failures := 0, sender := .working }.offer
              "Play").queue = ["Play"] :=
        (Link.offer_queue _ _ connected).trans (congrArg (· ++ ["Play"]) empty)
      have unforeseen : Fault.broken ≠ .closed := by decide
      obtain ⟨moment, escapes, escaped⟩ := Schedule.reaches_escape queued unforeseen
      exact ⟨moment, (listening.trans (Schedule.reaches_run .publish)).trans escapes, escaped⟩

end SceneEditor
