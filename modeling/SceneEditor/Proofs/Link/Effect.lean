import SceneEditor.Link.Basic

namespace SceneEditor

/-!
# What the operations of a link change

The trace tells which texts were accepted and which were written.  Every operation adds to it; all
but publishing, sending and calling add nothing that concerns a text or a connection, and each of
them changes few fields besides.
-/

namespace LinkEvent

/-- The text that was written as a command. -/
def sent? : LinkEvent → Option String
  | .wrote frame => if frame.command = "SEND" then some frame.body else none
  | _ => none

/-- The text that was published and accepted. -/
def accepted? : LinkEvent → Option String
  | .published text true => some text
  | _ => none

/-- The text that was published and refused. -/
def refused? : LinkEvent → Option String
  | .published text false => some text
  | _ => none

/-- A connection was asked for. -/
def isCall : LinkEvent → Bool
  | .called _ _ => true
  | _ => false

/-- No text was accepted or written, and no connection was asked for. -/
def isQuiet : LinkEvent → Bool
  | .called _ _ => false
  | .wrote frame => frame.command != "SEND"
  | .published _ accepted => !accepted
  | _ => true

theorem sent?_of_isQuiet
    {event : LinkEvent}
    (quiet : event.isQuiet = true) :
    event.sent? = none := by
  cases event with
  | wrote frame =>
      have other : frame.command ≠ "SEND" := by simpa [isQuiet] using quiet
      simp [sent?, other]
  | _ =>
      rfl

theorem accepted?_of_isQuiet
    {event : LinkEvent}
    (quiet : event.isQuiet = true) :
    event.accepted? = none := by
  cases event with
  | published text accepted =>
      have refused : accepted = false := by simpa [isQuiet] using quiet
      simp [accepted?, refused]
  | _ =>
      rfl

end LinkEvent

namespace Link

/-- The items of the stream that a link listens to. -/
def stream (link : Link) : List StreamItem :=
  (link.socket?.map Socket.stream).getD []

/-- All that a link did is to add quiet events to its trace. -/
def Tells (link later : Link) : Prop :=
  ∃ events,
    (∀ event ∈ events, event.isQuiet = true)
      ∧ later = { link with trace := link.trace ++ events }

namespace Tells

theorem refl
    (link : Link) :
    Tells link link :=
  ⟨[], by simp, by simp⟩

theorem trans
    {link between later : Link}
    (first : Tells link between)
    (second : Tells between later) :
    Tells link later := by
  obtain ⟨events, quiet, rfl⟩ := first
  obtain ⟨moreEvents, moreQuiet, rfl⟩ := second
  refine ⟨events ++ moreEvents, ?_, by simp⟩
  intro event member
  rcases List.mem_append.mp member with early | late
  · exact quiet event early
  · exact moreQuiet event late

/-- Recording a quiet event is telling. -/
theorem record
    (link : Link)
    {event : LinkEvent}
    (quiet : event.isQuiet = true) :
    Tells link (link.record event) :=
  ⟨[event], by simpa using quiet, rfl⟩

theorem note
    (link : Link)
    (level : LogLevel)
    (message : String) :
    Tells link (link.note level message) :=
  record link rfl

end Tells

/-- Delivering a body to a listener is telling. -/
theorem tells_deliver
    (listener? : Option Listener)
    (link : Link)
    (body : String) :
    Tells link (deliver listener? link body) := by
  unfold deliver
  split
  · exact .refl link
  · next listener =>
    have told : Tells link (link.record (.delivered body (listener body))) := .record link rfl
    dsimp only
    split
    · exact told.trans (.note _ _ _)
    · exact told

/-- Whatever arrives, a link only tells of it. -/
theorem tells_handle
    (listener? : Option Listener)
    (link : Link)
    (message : Message) :
    Tells link (link.handle listener? message) := by
  unfold handle
  split
  · exact .note _ _ _
  · exact .refl link
  · split
    · exact tells_deliver _ _ _
    · split
      · exact .refl link
      · split <;> exact .note _ _ _

/-- A stream that ends is told of. -/
theorem tells_noteEnd_none
    (link : Link) :
    Tells link (link.noteEnd none) := by
  unfold noteEnd
  dsimp only
  split
  · exact .note _ _ _
  · exact .refl link

/-- A connection that is closed is told of. -/
theorem tells_noteEnd_closed
    (link : Link) :
    Tells link (link.noteEnd (some .closed)) :=
  .note _ _ _

theorem Tells.socket?
    {link later : Link}
    (tells : Tells link later) :
    later.socket? = link.socket? := by
  obtain ⟨events, -, rfl⟩ := tells
  rfl

theorem Tells.sender
    {link later : Link}
    (tells : Tells link later) :
    later.sender = link.sender := by
  obtain ⟨events, -, rfl⟩ := tells
  rfl

/-!
## Sockets
-/

/-- A frame is written, or the send fails, and then the socket is as it was but for its count. -/
inductive Writes (link : Link) (frame : Frame) : Link × Option LinkFailure → Prop
  | missing
      (none : link.socket? = none) :
      Writes link frame (link, some .notConnected)
  | fails
      {socket counted : Socket}
      (present : link.socket? = some socket)
      (same : counted = { socket with failingSend? := counted.failingSend? }) :
      Writes link frame ({ link with socket? := some counted }, some (.fault .closed))
  | succeeds
      {socket counted : Socket}
      (present : link.socket? = some socket)
      (same : counted = { socket with failingSend? := counted.failingSend? }) :
      Writes link frame
        ({ link with socket? := some counted, trace := link.trace ++ [.wrote frame] }, none)

/-- Writing does what is said of it. -/
theorem write_writes
    (link : Link)
    (frame : Frame) :
    Writes link frame (link.write frame) := by
  unfold write
  split
  · next missing =>
    exact .missing missing
  · next socket present =>
    split
    · exact .fails present rfl
    · exact .succeeds present rfl

theorem writes_of_eq
    {link later : Link}
    {frame : Frame}
    {failure? : Option LinkFailure}
    (written : link.write frame = (later, failure?)) :
    Writes link frame (later, failure?) :=
  written ▸ link.write_writes frame

/-- A send does not do away with the socket. -/
theorem isSome_of_write
    {link later : Link}
    {frame : Frame}
    {failure? : Option LinkFailure}
    (written : link.write frame = (later, failure?))
    (present : link.socket?.isSome = true) :
    later.socket?.isSome = true := by
  cases writes_of_eq written with
  | missing _ =>
      exact present
  | _ =>
      rfl

/-- A socket is closed, and nothing but its absence is left of it. -/
theorem closeSocket_tells
    (link : Link) :
    Tells { link with socket? := none } link.closeSocket := by
  unfold closeSocket
  split
  · next missing =>
    rw [← missing]
    exact .refl link
  · exact .record { link with socket? := none } rfl

/-- Note that an attempt failed. -/
def noteFailure (link : Link) (failure : LinkFailure) : Link :=
  link.note .error ("Failed to connect to server: " ++ failure.message)

/-- Close the socket of an attempt that failed, and count the failure. -/
def abandon (link : Link) : Link :=
  { link.closeSocket with
    state := .disconnected
    failures := link.closeSocket.failures + 1 }

/-- A stopped sender leaves an empty queue. -/
theorem stopSender_tells
    (link : Link) :
    Tells { link with sender := .none, queue := [] } link.stopSender := by
  have told :
      Tells
        { link with sender := .none, queue := [] }
        { (if link.sender = .failed then
            link.note .warning ("Sender stopped: " ++ Fault.closed.message)
          else link) with sender := .none, queue := [] } := by
    split
    · exact .note { link with sender := .none, queue := [] } _ _
    · exact .refl _
  unfold stopSender
  dsimp only
  split
  · exact told
  · exact told.trans (.note _ _ _)

theorem closeSocket_queue
    (link : Link) :
    link.closeSocket.queue = link.queue := by
  obtain ⟨events, -, closed⟩ := link.closeSocket_tells
  rw [closed]

theorem closeSocket_socket?
    (link : Link) :
    link.closeSocket.socket? = none :=
  link.closeSocket_tells.socket?

/-- The queue goes with the sender. -/
theorem stopSender_queue
    (link : Link) :
    link.stopSender.queue = [] := by
  obtain ⟨events, -, stopped⟩ := link.stopSender_tells
  rw [stopped]

theorem stopSender_running
    (link : Link) :
    link.stopSender.running = link.running := by
  obtain ⟨events, -, stopped⟩ := link.stopSender_tells
  rw [stopped]

/-- Writing leaves the queue. -/
theorem queue_of_write
    {link later : Link}
    {frame : Frame}
    {failure? : Option LinkFailure}
    (written : link.write frame = (later, failure?)) :
    later.queue = link.queue := by
  cases writes_of_eq written <;> rfl

/-!
## What a stream leaves as it is
-/

/-- What a link was set up with, the attempts that are to come and the failures so far. -/
structure Keeps (link later : Link) : Prop where
  settings : later.settings = link.settings
  attempts : later.attempts = link.attempts
  failures : later.failures = link.failures

namespace Keeps

theorem refl
    (link : Link) :
    Keeps link link :=
  ⟨rfl, rfl, rfl⟩

/-- What two changes keep is kept by both together. -/
theorem trans
    {link between later : Link}
    (first : Keeps link between)
    (second : Keeps between later) :
    Keeps link later where
  settings := second.settings.trans first.settings
  attempts := second.attempts.trans first.attempts
  failures := second.failures.trans first.failures

end Keeps

/-- Telling keeps what a link was set up with. -/
theorem Tells.keeps
    {link later : Link}
    (tells : Tells link later) :
    Keeps link later := by
  obtain ⟨events, -, rfl⟩ := tells
  exact ⟨rfl, rfl, rfl⟩

theorem keeps_record
    (link : Link)
    (event : LinkEvent) :
    Keeps link (link.record event) :=
  ⟨rfl, rfl, rfl⟩

theorem keeps_write
    (link : Link)
    (frame : Frame) :
    Keeps link (link.write frame).1 := by
  have writes := link.write_writes frame
  generalize link.write frame = result at writes ⊢
  cases writes <;> exact ⟨rfl, rfl, rfl⟩

theorem keeps_of_write
    {link later : Link}
    {frame : Frame}
    {failure? : Option LinkFailure}
    (written : link.write frame = (later, failure?)) :
    Keeps link later := by
  have kept := link.keeps_write frame
  rwa [written] at kept

theorem keeps_closeSocket
    (link : Link) :
    Keeps link link.closeSocket :=
  have kept := link.closeSocket_tells.keeps
  ⟨kept.settings, kept.attempts, kept.failures⟩

theorem keeps_stopSender
    (link : Link) :
    Keeps link link.stopSender :=
  have kept := link.stopSender_tells.keeps
  ⟨kept.settings, kept.attempts, kept.failures⟩

theorem keeps_publish
    (link : Link)
    (text : String) :
    Keeps link (link.publish text).1 := by
  unfold publish
  split
  · exact ⟨rfl, rfl, rfl⟩
  · exact (Tells.note _ _ _).keeps

end Link

end SceneEditor
