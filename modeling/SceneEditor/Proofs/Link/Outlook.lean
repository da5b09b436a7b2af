import SceneEditor.Proofs.Link.Handshake

namespace SceneEditor

/-!
# What an attempt under way will come to

Before an attempt begins it is settled whether it succeeds, and what the link listens to if it does.
Each stage of the attempt has less to go on and says the same, so that what the stages come to one
by one is what `Link.connect` comes to at once.
-/

namespace Link

variable {link later : Link} {stage : Dial} {result : Except LinkFailure (Option Dial)}

/-- Why an attempt that has come to a stage fails, if it does. -/
def outlook? (link : Link) : Dial → Option LinkFailure
  | .calling => link.refusal?
  | .opening =>
      match link.attempts with
      | [] => some (.fault .refused)
      | attempt :: _ => attempt.refusal? link.settings
  | .greeting _ => link.socket?.elim (some .notConnected) Socket.refusal?
  | .awaiting =>
      link.socket?.elim (some .notConnected) fun socket =>
        (awaitConnected socket.handshake).2.or (socket.unsent? 1)
  | .subscribing => link.socket?.elim (some .notConnected) fun socket => socket.unsent? 1
  | .subscribed => none

/-- Why an attempt fails, if it does, after a stage with a result. -/
def outlookAfter? (later : Link) : Except LinkFailure (Option Dial) → Option LinkFailure
  | .error failure => some failure
  | .ok none => none
  | .ok (some next) => later.outlook? next

/-- The attempt fails with the send, or it goes on with a socket that carries one frame less. -/
theorem outlook_writeThen
    {frame : Frame}
    {next : Dial}
    (goOn : Socket → Option LinkFailure)
    (goesOn :
      ∀ (left : Link) (socket : Socket),
        left.socket? = some socket → left.outlook? next = goOn socket)
    (written : link.writeThen frame next = (later, result)) :
    later.outlookAfter? result =
      link.socket?.elim (some .notConnected) fun socket =>
        (socket.unsent? 1).or (goOn socket.counted) := by
  unfold writeThen at written
  cases present : link.socket? with
  | none =>
      have missing : link.write frame = (link, some .notConnected) := by
        unfold write
        rw [present]
      rw [missing] at written
      obtain ⟨rfl, rfl⟩ := Prod.mk.inj written
      rfl
  | some socket =>
      dsimp only [Option.elim]
      cases carried : socket.carries 1 with
      | false =>
          rw [write_uncarried present carried] at written
          obtain ⟨rfl, rfl⟩ := Prod.mk.inj written
          simp [outlookAfter?, Socket.unsent?, carried]
      | true =>
          rw [write_carried present carried] at written
          obtain ⟨rfl, rfl⟩ := Prod.mk.inj written
          simpa [outlookAfter?, Socket.unsent?, carried] using goesOn _ socket.counted rfl

theorem outlook_hear
    (heard : link.hear = (later, result)) :
    later.outlookAfter? result = link.outlook? .awaiting := by
  unfold hear at heard
  unfold outlook?
  cases present : link.socket? with
  | none =>
      rw [present] at heard
      obtain ⟨rfl, rfl⟩ := Prod.mk.inj heard
      rfl
  | some socket =>
      rw [present] at heard
      dsimp only [Option.elim] at heard ⊢
      cases items : socket.handshake with
      | nil =>
          rw [items] at heard
          obtain ⟨rfl, rfl⟩ := Prod.mk.inj heard
          rfl
      | cons item rest =>
          rw [items] at heard
          cases item with
          | fault fault =>
              obtain ⟨rfl, rfl⟩ := Prod.mk.inj heard
              rfl
          | message message =>
              obtain ⟨rfl, rfl⟩ := Prod.mk.inj heard
              unfold awaitConnected
              cases judge message with
              | error failure =>
                  rfl
              | ok answered =>
                  cases answered <;> rfl

theorem outlook_opening
    (opened : link.dial .opening = (later, result)) :
    later.outlookAfter? result = link.outlook? .opening := by
  simp only [dial] at opened
  unfold outlook?
  cases used : link.attempts with
  | nil =>
      rw [used] at opened
      obtain ⟨rfl, rfl⟩ := Prod.mk.inj opened
      rfl
  | cons attempt attempts =>
      rw [used] at opened
      cases attempt with
      | fault fault =>
          obtain ⟨rfl, rfl⟩ := Prod.mk.inj opened
          rfl
      | opened socket =>
          obtain ⟨rfl, rfl⟩ := Prod.mk.inj opened
          unfold Attempt.refusal?
          cases Address.host link.settings.url <;> rfl

theorem outlook_greeting
    {host : String}
    (greeted : link.dial (.greeting host) = (later, result)) :
    later.outlookAfter? result = link.outlook? (.greeting host) := by
  have goesOn (left : Link) (socket : Socket) (present : left.socket? = some socket) :
      left.outlook? .awaiting =
        (awaitConnected socket.handshake).2.or (socket.unsent? 1) := by
    simp [outlook?, present]
  rw [outlook_writeThen _ goesOn greeted]
  unfold outlook?
  cases link.socket? with
  | none =>
      rfl
  | some socket =>
      cases carried : socket.carries 1 with
      | false =>
          simp [Socket.refusal?, Socket.unsent?, carried]
      | true =>
          have second : socket.counted.unsent? 1 = socket.unsent? 2 := by
            rw [Socket.unsent?, Socket.carries_counted carried]
            rfl
          dsimp only [Option.elim]
          rw [second]
          rfl

/-- No stage of an attempt changes what the attempt comes to. -/
theorem outlook_dial
    (dialled : link.dial stage = (later, result)) :
    later.outlookAfter? result = link.outlook? stage := by
  cases stage with
  | calling =>
      simp only [dial] at dialled
      unfold outlook? refusal?
      split at dialled <;>
        next late =>
          obtain ⟨rfl, rfl⟩ := Prod.mk.inj dialled
          simp only [late, if_true, Bool.false_eq_true, if_false]
          rfl
  | opening =>
      exact outlook_opening dialled
  | greeting host =>
      exact outlook_greeting dialled
  | awaiting =>
      exact outlook_hear dialled
  | subscribing =>
      rw [outlook_writeThen (fun _ => none) (fun _ _ _ => rfl) dialled]
      simp [outlook?]
  | subscribed =>
      obtain ⟨rfl, rfl⟩ := Prod.mk.inj dialled
      rfl

/-- What an attempt will come to is not changed by what is published. -/
theorem outlook_offer
    (link : Link)
    (text : String)
    (stage : Dial) :
    (link.offer text).outlook? stage = link.outlook? stage := by
  unfold offer publish
  split <;> cases stage <;> rfl

/-!
## What attempts come to one after another
-/

/-- Only the settings and the attempts that are to come decide on a refusal. -/
theorem refusal?_congr
    (settings : later.settings = link.settings)
    (attempts : link.settings.connectTimeout.le 0 = false → later.attempts = link.attempts) :
    later.refusal? = link.refusal? := by
  unfold refusal?
  rw [settings]
  split
  · rfl
  · next onTime =>
    rw [attempts (by simpa using onTime)]

/-- The link after so many attempts, had they left nothing else behind. -/
def after (link : Link) (number : Nat) : Link :=
  { link with attempts := link.attempts.drop number }

/-- What the attempt with a number comes to, counted from zero. -/
def outcome (link : Link) (number : Nat) : Except LinkFailure Bool :=
  (link.after number).connect.2

/-- The attempt of a number connects the link. -/
def succeeds (link : Link) (number : Nat) : Bool :=
  match link.outcome number with
  | .ok answer => answer
  | .error _ => false

/-- An attempt that nothing refuses succeeds. -/
theorem succeeds_of_agreed
    {number : Nat}
    (apart : link.isConnected = false)
    (agreed : (link.after number).refusal? = none) :
    link.succeeds number = true := by
  have apart : (link.after number).isConnected = false := apart
  obtain ⟨events, answer, -⟩ := connect_of_agreed apart agreed
  rw [succeeds, outcome, answer]

/-- An attempt that fails in a way that a link is made for only comes to false. -/
theorem fails_of_refused
    {number : Nat}
    {failure : LinkFailure}
    (apart : link.isConnected = false)
    (answers : ∃ answer, link.outcome number = .ok answer)
    (refused : (link.after number).refusal? = some failure) :
    failure.isExpected = true ∧ link.succeeds number = false := by
  have apart : (link.after number).isConnected = false := apart
  obtain ⟨answer, answers⟩ := answers
  cases expected : failure.isExpected with
  | true =>
      obtain ⟨events, failed, -⟩ := connect_of_refused apart refused expected
      rw [succeeds, outcome, failed]
      exact ⟨rfl, rfl⟩
  | false =>
      obtain ⟨escaped, -⟩ := connect_of_escaped apart refused expected
      exact nomatch answers.symm.trans escaped

/-- If every attempt fails only in ways that a link is made for, each of them has an outcome. -/
theorem IsForeseen.outcome
    (foreseen : link.IsForeseen)
    (apart : link.isConnected = false)
    (number : Nat) :
    ∃ answer, link.outcome number = .ok answer := by
  have apart : (link.after number).isConnected = false := apart
  cases refused : (link.after number).refusal? with
  | none =>
      obtain ⟨events, answer, -⟩ := connect_of_agreed apart refused
      exact ⟨true, answer⟩
  | some failure =>
      have next : ∀ attempt ∈ (link.after number).attempts.head?, attempt.isExpected = true :=
        fun attempt isNext =>
          foreseen.attempts attempt (List.mem_of_mem_drop (List.mem_of_mem_head? isNext))
      have expected := isExpected_of_refusal? next (fun _ => foreseen.address) refused
      obtain ⟨events, answer, -⟩ := connect_of_refused apart refused expected
      exact ⟨false, answer⟩

end Link

/-!
## Calls and waits
-/

/-- It tried to open a socket, or it waited. -/
def LinkEvent.isPace : LinkEvent → Bool
  | .called _ _ | .slept _ => true
  | _ => false

namespace Link

variable {link later : Link} {stage : Dial} {result : Except LinkFailure (Option Dial)}

/-- The calls of a link and what it waited for between them. -/
def paces (link : Link) : List LinkEvent :=
  link.trace.filter LinkEvent.isPace

/-- An event is added to the paces if it is one. -/
theorem paces_record
    (link : Link)
    (event : LinkEvent) :
    (link.record event).paces = link.paces ++ if event.isPace then [event] else [] := by
  simp [paces, record, List.filter_append, List.filter_cons]

@[simp]
theorem paces_note
    (link : Link)
    (level : LogLevel)
    (message : String) :
    (link.note level message).paces = link.paces := by
  simp [note, paces_record, LinkEvent.isPace]

theorem paces_closeSocket
    (link : Link) :
    link.closeSocket.paces = link.paces := by
  simp [paces, closeSocket_trace, List.filter_append, LinkEvent.isPace]

theorem paces_stopSender
    (link : Link) :
    link.stopSender.paces = link.paces := by
  have told :
      (if link.sender = .failed then
          link.note .warning ("Sender stopped: " ++ Fault.closed.message)
        else link).paces = link.paces := by
    split
    · exact paces_note _ _ _
    · rfl
  unfold stopSender
  dsimp only
  split
  · exact told
  · exact (paces_note _ _ _).trans told

/-- Handling a message adds no pace. -/
theorem paces_handle
    (listener? : Option Listener)
    (link : Link)
    (message : Message) :
    (link.handle listener? message).paces = link.paces := by
  unfold handle deliver
  dsimp only
  repeat' split
  all_goals simp [paces_record, LinkEvent.isPace]

/-- Nothing has changed of what a run that is not connecting goes by. -/
structure Idles (link later : Link) : Prop where
  keeps : Keeps link later
  running : later.running = link.running
  state : later.state = link.state
  stream : later.socket?.map Socket.stream = link.socket?.map Socket.stream
  paces : later.paces = link.paces

namespace Idles

/-- Telling without a pace changes nothing that a run goes by. -/
theorem of_tells
    (tells : Tells link later)
    (paces : later.paces = link.paces) :
    Idles link later := by
  obtain ⟨events, -, rfl⟩ := tells
  exact ⟨⟨rfl, rfl, rfl⟩, rfl, rfl, rfl, paces⟩

/-- Handling a message changes nothing that a run goes by. -/
theorem handle
    (listener? : Option Listener)
    (link : Link)
    (message : Message) :
    Idles link (link.handle listener? message) :=
  of_tells (link.tells_handle listener? message) (paces_handle listener? link message)

theorem note
    (link : Link)
    (level : LogLevel)
    (message : String) :
    Idles link (link.note level message) :=
  of_tells (.note _ _ _) (paces_note _ _ _)

theorem noteEnd_none
    (link : Link) :
    Idles link (link.noteEnd none) := by
  unfold noteEnd
  dsimp only
  split
  · exact note _ _ _
  · exact ⟨.refl link, rfl, rfl, rfl, rfl⟩

theorem write
    (link : Link)
    (frame : Frame) :
    Idles link (link.write frame).1 := by
  have writes := link.write_writes frame
  generalize link.write frame = result at writes ⊢
  cases writes with
  | missing _ =>
      exact ⟨.refl link, rfl, rfl, rfl, rfl⟩
  | fails present same =>
      refine ⟨⟨rfl, rfl, rfl⟩, rfl, rfl, ?_, rfl⟩
      rw [present, Option.map_some, Option.map_some, same]
  | succeeds present same =>
      refine ⟨⟨rfl, rfl, rfl⟩, rfl, rfl, ?_, ?_⟩
      · rw [present, Option.map_some, Option.map_some, same]
      · exact (paces_record _ _).trans (List.append_nil _)

theorem of_write
    {frame : Frame}
    {failure? : Option LinkFailure}
    (written : link.write frame = (later, failure?)) :
    Idles link later := by
  have idles := write link frame
  rwa [written] at idles

/-- Offering a text changes nothing that a run goes by. -/
theorem offer
    (link : Link)
    (text : String) :
    Idles link (link.offer text) := by
  have told (link : Link) (accepted : Bool) :
      (link.record (.published text accepted)).paces = link.paces :=
    (paces_record _ _).trans (List.append_nil _)
  unfold Link.offer publish
  split
  · exact ⟨⟨rfl, rfl, rfl⟩, rfl, rfl, rfl, told _ _⟩
  · exact ⟨⟨rfl, rfl, rfl⟩, rfl, rfl, rfl, (told _ _).trans (paces_note _ _ _)⟩

/-- Stopping the sender changes nothing that a run goes by. -/
theorem stopSender
    (link : Link) :
    Idles link link.stopSender := by
  have stopped : Idles { link with sender := .none, queue := [] } link.stopSender :=
    of_tells link.stopSender_tells link.paces_stopSender
  exact ⟨link.keeps_stopSender, stopped.running, stopped.state, stopped.stream, stopped.paces⟩

theorem writeThen
    {frame : Frame}
    {next : Dial}
    (shaking : next.isShaking = true)
    (written : link.writeThen frame next = (later, result)) :
    Idles link later ∧ ∀ follower, result = .ok (some follower) → follower.isShaking = true := by
  unfold Link.writeThen at written
  cases sent : link.write frame with
  | mk left failure? =>
      have idles := of_write sent
      rw [sent] at written
      cases failure? with
      | some failure =>
          obtain ⟨rfl, rfl⟩ := Prod.mk.inj written
          exact ⟨idles, nofun⟩
      | none =>
          obtain ⟨rfl, rfl⟩ := Prod.mk.inj written
          refine ⟨idles, fun follower goesOn => ?_⟩
          cases goesOn
          exact shaking

theorem hear
    (heard : link.hear = (later, result)) :
    Idles link later ∧ ∀ follower, result = .ok (some follower) → follower.isShaking = true := by
  unfold Link.hear at heard
  split at heard
  · obtain ⟨rfl, rfl⟩ := Prod.mk.inj heard
    exact ⟨⟨.refl link, rfl, rfl, rfl, rfl⟩, nofun⟩
  · next socket present =>
    split at heard
    · obtain ⟨rfl, rfl⟩ := Prod.mk.inj heard
      exact ⟨⟨.refl link, rfl, rfl, rfl, rfl⟩, nofun⟩
    · obtain ⟨rfl, rfl⟩ := Prod.mk.inj heard
      exact ⟨⟨⟨rfl, rfl, rfl⟩, rfl, rfl, by simp [present], rfl⟩, nofun⟩
    · next message handshake items =>
      obtain ⟨rfl, rfl⟩ := Prod.mk.inj heard
      refine ⟨⟨⟨rfl, rfl, rfl⟩, rfl, rfl, by simp [present], rfl⟩, fun follower goesOn => ?_⟩
      cases judged : judge message with
      | error failure =>
          rw [judged] at goesOn
          cases goesOn
      | ok answered =>
          rw [judged] at goesOn
          cases goesOn
          cases answered <;> rfl

/-- On a socket, an attempt goes on without taking another and without waiting. -/
theorem dial
    (shaking : stage.isShaking = true)
    (dialled : link.dial stage = (later, result)) :
    Idles link later ∧ ∀ next, result = .ok (some next) → next.isShaking = true := by
  cases stage with
  | calling =>
      exact nomatch shaking
  | opening =>
      exact nomatch shaking
  | greeting host =>
      exact writeThen rfl dialled
  | awaiting =>
      exact hear dialled
  | subscribing =>
      exact writeThen rfl dialled
  | subscribed =>
      obtain ⟨rfl, rfl⟩ := Prod.mk.inj dialled
      exact ⟨⟨.refl link, rfl, rfl, rfl, rfl⟩, nofun⟩

end Idles

end Link

end SceneEditor
