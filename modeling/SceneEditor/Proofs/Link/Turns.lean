import SceneEditor.Proofs.Link.Effect

namespace SceneEditor

/-!
# The turns of a run

A turn that connects uses up an attempt, and a turn that fails to connect uses up an attempt or,
when none is left that could succeed, one of the failures that are allowed.  So a run takes no more
turns than it allows itself.
-/

namespace Link

/-!
## A stream uses up no attempt
-/

theorem keeps_sendAll
    (link : Link)
    (texts : List String) :
    Keeps link (link.sendAll texts) := by
  induction texts generalizing link with
  | nil =>
      exact ⟨rfl, rfl, rfl⟩
  | cons text rest inductionHypothesis =>
      have kept := link.keeps_write (.send link.settings.commandDestination text)
      unfold sendAll
      split <;>
        next written =>
          rw [written] at kept
          first
          | exact kept.trans (inductionHypothesis _)
          | exact ⟨kept.settings, kept.attempts, kept.failures⟩

theorem keeps_flush
    (link : Link) :
    Keeps link link.flush := by
  unfold flush
  split
  · exact keeps_sendAll link link.queue
  · exact .refl link

theorem keeps_disconnect
    (link : Link) :
    Keeps link link.disconnect := by
  have left :
      Keeps link
        (if link.isConnected then
          { ({ link with running := false }.write (.disconnect (identifier link.nextId))).1 with
            nextId := link.nextId + 1 }
        else { link with running := false }) := by
    split
    · have kept :=
        { link with running := false }.keeps_write (.disconnect (identifier link.nextId))
      exact ⟨kept.settings, kept.attempts, kept.failures⟩
    · exact ⟨rfl, rfl, rfl⟩
  have kept := (left.trans (keeps_stopSender _)).trans (keeps_closeSocket _)
  exact ⟨kept.settings, kept.attempts, kept.failures⟩

theorem keeps_listenTo
    (listener? : Option Listener)
    (link : Link)
    (items : List StreamItem) :
    Keeps link (link.listenTo listener? items).1 := by
  induction items generalizing link with
  | nil =>
      exact .refl link
  | cons item rest inductionHypothesis =>
      cases item with
      | message message =>
          have handled := (link.tells_handle listener? message).keeps
          exact (handled.trans (keeps_flush _)).trans (inductionHypothesis _)
      | fault fault =>
          exact .refl link
      | publish text waits =>
          have offered : ∀ event, Keeps link ((link.publish text).1.record event) :=
            fun event => (link.keeps_publish text).trans (keeps_record _ event)
          cases waits with
          | true =>
              exact (offered _).trans (inductionHypothesis _)
          | false =>
              exact ((offered _).trans (keeps_flush _)).trans (inductionHypothesis _)
      | disconnect =>
          exact ((keeps_disconnect link).trans (keeps_flush _)).trans (inductionHypothesis _)

theorem keeps_noteEnd
    (link : Link)
    (fault? : Option Fault) :
    Keeps link (link.noteEnd fault?) := by
  unfold noteEnd
  split
  · split
    · exact keeps_record _ _
    · exact .refl link
  · exact keeps_record _ _
  · dsimp only
    refine Keeps.trans ?_ (keeps_record _ _)
    refine Keeps.trans ?_ (keeps_closeSocket _)
    exact ((keeps_record _ _).trans (keeps_record _ _)).trans (keeps_record _ _)

theorem keeps_listen
    (listener? : Option Listener)
    (link : Link) :
    Keeps link (link.listen listener?) := by
  have kept := keeps_listenTo listener? { link with sender := .working } link.stream
  have heard : Keeps link (listenTo listener? { link with sender := .working } link.stream).1 :=
    ⟨kept.settings, kept.attempts, kept.failures⟩
  have stopped (fault? : Option Fault) :=
    (heard.trans (keeps_noteEnd _ fault?)).trans (keeps_stopSender _)
  unfold listen
  dsimp only
  split
  · exact ⟨(stopped _).settings, (stopped _).attempts, (stopped _).failures⟩
  · exact stopped _

/-- After a stream a run that goes on has to connect again. -/
theorem isConnected_listen
    (listener? : Option Listener)
    (link : Link)
    (on : (link.listen listener?).running = true) :
    (link.listen listener?).isConnected = false := by
  revert on
  unfold listen
  dsimp only
  split
  · exact fun _ => rfl
  · next off =>
    exact fun on => absurd on off

/-!
## An attempt uses up what it may
-/

/-- What a handshake leaves as it is, and that it succeeds only on a socket. -/
structure Shakes (link : Link) (result : Link × Option LinkFailure) : Prop where
  keeps : Keeps link result.1
  running : result.1.running = link.running
  queue : result.1.queue = link.queue
  present : result.2 = none → result.1.socket?.isSome = true

namespace Shakes

/-- Two parts of a handshake make one. -/
theorem after
    {link between : Link}
    {failure? : Option LinkFailure}
    {result : Link × Option LinkFailure}
    (first : Shakes link (between, failure?))
    (second : Shakes between result) :
    Shakes link result where
  keeps := first.keeps.trans second.keeps
  running := second.running.trans first.running
  queue := second.queue.trans first.queue
  present := second.present

theorem write
    (link : Link)
    (frame : Frame) :
    Shakes link (link.write frame) := by
  have writes := link.write_writes frame
  generalize link.write frame = result at writes ⊢
  cases writes with
  | missing _ =>
      exact ⟨.refl link, rfl, rfl, by simp⟩
  | fails _ _ =>
      exact ⟨⟨rfl, rfl, rfl⟩, rfl, rfl, by simp⟩
  | succeeds _ _ =>
      exact ⟨⟨rfl, rfl, rfl⟩, rfl, rfl, by simp⟩

/-- Waiting for the agreement is a part of a handshake. -/
theorem receiveConnected
    (link : Link) :
    Shakes link link.receiveConnected := by
  unfold Link.receiveConnected
  split
  · exact ⟨.refl link, rfl, rfl, by simp⟩
  · exact ⟨⟨rfl, rfl, rfl⟩, rfl, rfl, by simp⟩

/-- A handshake does what is said of it. -/
theorem shakeHands
    (link : Link) :
    Shakes link link.shakeHands := by
  unfold Link.shakeHands
  split
  · exact ⟨.refl link, rfl, rfl, by simp⟩
  · next host _ =>
    have greeted := write link (.connect (if host.isEmpty then "localhost" else host) 0)
    split
    · next written =>
      exact written ▸ greeted
    · next greetedLink written =>
      rw [written] at greeted
      have answered := receiveConnected greetedLink
      split
      · next received =>
        exact greeted.after (received ▸ answered)
      · next answeredLink received =>
        rw [received] at answered
        exact (greeted.after answered).after (write answeredLink _)

end Shakes

/-- An attempt to connect may succeed. -/
def canConnect (link : Link) : Bool :=
  !link.settings.connectTimeout.le 0 && !link.attempts.isEmpty

/-- What an attempt does to what it was set up with, and when it can succeed. -/
structure Establishes (link later : Link) (failure? : Option LinkFailure) : Prop where
  settings : later.settings = link.settings
  failures : later.failures = link.failures
  running : later.running = link.running
  queue : later.queue = link.queue
  present : failure? = none → later.socket?.isSome = true
  usesUp : later.attempts = if link.canConnect then link.attempts.tail else link.attempts
  canConnect : failure? = none → link.canConnect = true

theorem establishes
    {link later : Link}
    {failure? : Option LinkFailure}
    (established : link.establish = (later, failure?)) :
    Establishes link later failure? := by
  unfold establish openSocket at established
  cases late : link.settings.connectTimeout.le 0 with
  | true =>
      have cannot : link.canConnect = false := by simp [canConnect, late]
      simp only [late, if_true] at established
      obtain ⟨rfl, rfl⟩ := Prod.mk.inj established
      exact ⟨rfl, rfl, rfl, rfl, by simp, by simp [cannot], by simp⟩
  | false =>
      simp only [late, Bool.false_eq_true, if_false] at established
      cases used : link.attempts with
      | nil =>
          have cannot : link.canConnect = false := by simp [canConnect, used]
          simp only [record, used] at established
          obtain ⟨rfl, rfl⟩ := Prod.mk.inj established
          exact ⟨rfl, rfl, rfl, rfl, by simp, by simp [cannot, used], by simp⟩
      | cons attempt attempts =>
          have can : link.canConnect = true := by simp [canConnect, late, used]
          cases attempt with
          | fault fault =>
              simp only [record, used] at established
              obtain ⟨rfl, rfl⟩ := Prod.mk.inj established
              exact ⟨rfl, rfl, rfl, rfl, by simp, by simp [can, used], by simp⟩
          | opened socket =>
              simp only [record, used] at established
              have shaken := established ▸ Shakes.shakeHands _
              exact ⟨shaken.keeps.settings, shaken.keeps.failures, shaken.running, shaken.queue,
                shaken.present, by simpa [can, used] using shaken.keeps.attempts, fun _ => can⟩

/-!
## The ways in which a turn can go
-/

/-- What one turn of a run can come to, from a link to the link behind it and whether the run goes
on. -/
inductive Turns (listener? : Option Listener) (link : Link) : Link × Turn → Prop
  | finished
      (off : link.running = false) :
      Turns listener? link (link, .finished)
  | listened
      (on : link.running = true)
      (connected : link.isConnected = true) :
      Turns listener? link (link.listen listener?, .goOn)
  | connected
      {later : Link}
      (on : link.running = true)
      (apart : link.isConnected = false)
      (established : establish { link with state := .connecting } = (later, none)) :
      Turns listener? link
        ({ later with state := .connected, failures := 0 }.listen listener?, .goOn)
  | escaped
      {later : Link}
      {failure : LinkFailure}
      (on : link.running = true)
      (apart : link.isConnected = false)
      (established : establish { link with state := .connecting } = (later, some failure))
      (unexpected : failure.isExpected = false) :
      Turns listener? link (later, .escaped failure)
  | gaveUp
      {later : Link}
      {failure : LinkFailure}
      (on : link.running = true)
      (apart : link.isConnected = false)
      (established : establish { link with state := .connecting } = (later, some failure))
      (expected : failure.isExpected = true)
      (exhausted :
        (later.noteFailure failure).abandon.settings.maxReconnectAttempts
          < (later.noteFailure failure).abandon.failures) :
      Turns listener? link
        ((later.noteFailure failure).abandon.note .error "Max reconnection attempts reached",
          .finished)
  | rested
      {later : Link}
      {failure : LinkFailure}
      (on : link.running = true)
      (apart : link.isConnected = false)
      (established : establish { link with state := .connecting } = (later, some failure))
      (expected : failure.isExpected = true)
      (patient :
        ¬(later.noteFailure failure).abandon.settings.maxReconnectAttempts
          < (later.noteFailure failure).abandon.failures) :
      Turns listener? link
        ((later.noteFailure failure).abandon.record
          (.slept (later.noteFailure failure).abandon.settings.reconnectDelay), .goOn)

/-- A turn comes to one of the ways it can. -/
theorem turn_turns
    (listener? : Option Listener)
    (link : Link) :
    Turns listener? link (link.turn listener?) := by
  unfold turn
  split
  · next off =>
    exact .finished (by simpa using off)
  · next running =>
    have on : link.running = true := by simpa using running
    unfold connect
    by_cases connected : link.isConnected = true
    · rw [if_pos connected]
      exact .listened on connected
    · rw [if_neg connected]
      have apart : link.isConnected = false := by simpa using connected
      cases outcome : establish { link with state := .connecting } with
      | mk later failure? =>
          cases failure? with
          | none =>
              exact .connected on apart outcome
          | some failure =>
              dsimp only
              by_cases expected : failure.isExpected = true
              · rw [if_pos expected]
                dsimp only
                split
                · next exhausted =>
                  exact .gaveUp on apart outcome expected exhausted
                · next patient =>
                  exact .rested on apart outcome expected patient
              · rw [if_neg expected]
                exact .escaped on apart outcome (by simpa using expected)

/-!
## A run ends
-/

/-- The attempts that may still be made. -/
def patience (link : Link) : Nat :=
  let allowed := (link.settings.maxReconnectAttempts - link.failures).toNat
  if link.canConnect then
    link.attempts.length + max link.settings.maxReconnectAttempts.toNat allowed
  else allowed

/-- The turns that a run may still take. -/
def turnsLeft (link : Link) : Nat :=
  if link.running then link.patience + 2 + (if link.isConnected then 1 else 0) else 1

theorem turnsLeft_pos
    (link : Link) :
    0 < link.turnsLeft := by
  unfold turnsLeft
  split <;> omega

/-- The patience of a link is bounded by its attempts and its budget. -/
theorem patience_le
    (link : Link) :
    link.patience ≤
      link.attempts.length
        + max link.settings.maxReconnectAttempts.toNat
          (link.settings.maxReconnectAttempts - link.failures).toNat := by
  unfold patience
  dsimp only
  split <;> omega

/-- The patience depends only on what a link was set up with. -/
theorem Keeps.patience
    {link later : Link}
    (kept : Keeps link later) :
    later.patience = link.patience := by
  have same : later.canConnect = link.canConnect := by
    simp only [Link.canConnect, kept.settings, kept.attempts]
  simp only [Link.patience, same, kept.settings, kept.attempts, kept.failures]

/-- A link that is not connected has turns for its patience and two more at most. -/
theorem turnsLeft_le_of_apart
    {link : Link}
    (apart : link.running = true → link.isConnected = false) :
    link.turnsLeft ≤ link.patience + 2 := by
  unfold turnsLeft
  split
  · next on =>
    simp [apart on]
  · omega

/-- Behind a stream there are turns for the patience of the link and two more at most. -/
theorem turnsLeft_listen
    (listener? : Option Listener)
    (link : Link) :
    (link.listen listener?).turnsLeft ≤ link.patience + 2 := by
  rw [← (keeps_listen listener? link).patience]
  exact turnsLeft_le_of_apart (isConnected_listen listener? link)

/-- Whether it succeeds or fails, an attempt that could succeed is used up. -/
theorem patience_of_attempt
    {link later : Link}
    (can : link.canConnect = true)
    (settings : later.settings = link.settings)
    (attempts : later.attempts = link.attempts.tail)
    (failures : later.failures = 0 ∨ later.failures = link.failures + 1) :
    later.patience < link.patience := by
  have bounded := later.patience_le
  rw [settings, attempts, List.length_tail] at bounded
  have whole :
      link.patience =
        link.attempts.length
          + max link.settings.maxReconnectAttempts.toNat
            (link.settings.maxReconnectAttempts - link.failures).toNat := by
    unfold patience
    rw [if_pos can]
  have some : link.attempts ≠ [] := by
    intro none
    simp [canConnect, none] at can
  have positive := List.length_pos_iff.mpr some
  rcases failures with reset | counted
  · rw [reset] at bounded
    omega
  · rw [counted] at bounded
    omega

/-- An attempt that cannot succeed counts against the failures that are allowed. -/
theorem patience_of_failure
    {link later : Link}
    (cannot : link.canConnect = false)
    (settings : later.settings = link.settings)
    (attempts : later.attempts = link.attempts)
    (failures : later.failures = link.failures + 1)
    (allowed : later.failures ≤ link.settings.maxReconnectAttempts) :
    later.patience < link.patience := by
  have cannotLater : later.canConnect = false := by
    simpa only [canConnect, settings, attempts] using cannot
  unfold patience
  simp only [cannot, cannotLater, settings]
  simp only [Bool.false_eq_true, if_false]
  omega

theorem isConnected_abandon
    (link : Link) :
    link.abandon.isConnected = false :=
  rfl

/-- A running link that is not connected has turns for its patience and two more. -/
theorem turnsLeft_of_apart
    {link : Link}
    (on : link.running = true)
    (apart : link.isConnected = false) :
    link.turnsLeft = link.patience + 2 := by
  simp [turnsLeft, on, apart]

/-- A turn that goes on leaves fewer turns to be taken. -/
theorem turnsLeft_turn
    {listener? : Option Listener}
    {link later : Link}
    (goesOn : link.turn listener? = (later, .goOn)) :
    later.turnsLeft < link.turnsLeft := by
  have turns := goesOn ▸ link.turn_turns listener?
  cases turns with
  | listened on connected =>
      have listened := turnsLeft_listen listener? link
      simp only [turnsLeft, on, connected, if_true] at listened ⊢
      omega
  | @connected between on apart established =>
      have made := establishes established
      have used := made.usesUp
      rw [if_pos (made.canConnect rfl)] at used
      have fewer : { between with state := .connected, failures := 0 }.patience < link.patience :=
        patience_of_attempt (made.canConnect rfl) made.settings used (.inl rfl)
      have listened :=
        turnsLeft_listen listener? { between with state := .connected, failures := 0 }
      rw [turnsLeft_of_apart on apart]
      omega
  | @rested between failure on apart established expected patient =>
      have made := establishes established
      have closed := (between.noteFailure failure).keeps_closeSocket
      have settings : (between.noteFailure failure).abandon.settings = link.settings :=
        closed.settings.trans made.settings
      have attempts : (between.noteFailure failure).abandon.attempts = between.attempts :=
        closed.attempts
      have failures : (between.noteFailure failure).abandon.failures = link.failures + 1 :=
        congrArg (· + 1) (closed.failures.trans made.failures)
      have used :
          between.attempts = if link.canConnect then link.attempts.tail else link.attempts :=
        made.usesUp
      have fewer : (between.noteFailure failure).abandon.patience < link.patience := by
        cases can : link.canConnect with
        | true =>
            rw [if_pos can] at used
            exact patience_of_attempt can settings (attempts.trans used) (.inr failures)
        | false =>
            rw [if_neg (by simp [can])] at used
            refine patience_of_failure can settings (attempts.trans used) failures ?_
            rw [← settings]
            omega
      have left := turnsLeft_le_of_apart fun _ => (between.noteFailure failure).isConnected_abandon
      rw [turnsLeft_of_apart on apart]
      exact Nat.lt_of_le_of_lt left (by omega)

/-- The turns that are left are within the limit. -/
theorem turnsLeft_le_turnLimit
    (link : Link) :
    link.turnsLeft ≤ link.turnLimit := by
  have bounded := link.patience_le
  unfold turnsLeft turnLimit
  split
  · split <;> omega
  · omega

end Link

end SceneEditor
