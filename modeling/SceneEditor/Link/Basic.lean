import SceneEditor.Journal.Level
import SceneEditor.Link.Address
import SceneEditor.Link.Frame
import SceneEditor.Link.Peer
import SceneEditor.Material.Catalog

namespace SceneEditor

/-!
# The connection to the server

A link opens a socket, shakes hands, subscribes to the world and then listens.  Texts that are
published while it is connected wait in a queue, which a sender empties; texts that are published
otherwise are dropped.  Everything that a link does is kept in its trace, in order.
-/

/-- Where a link stands. -/
inductive LinkState where
  | disconnected
  | connecting
  | connected
  | reconnecting
  deriving DecidableEq, Repr

/-- How a state is called in answers. -/
def LinkState.name : LinkState → String
  | disconnected => "disconnected"
  | connecting => "connecting"
  | connected => "connected"
  | reconnecting => "reconnecting"

/-- What a link did. -/
inductive LinkEvent where
  /-- It tried to open a socket. -/
  | called (url : String) (heartbeat : Num)
  /-- It wrote a frame. -/
  | wrote (frame : Frame)
  /-- It closed the socket. -/
  | closed
  /-- It waited for some seconds. -/
  | slept (delay : Num)
  /-- It handed the body of a message to the listener, which failed or not. -/
  | delivered (body : String) (failure? : Option String)
  /-- A text was published while it listened, and accepted or not. -/
  | published (text : String) (accepted : Bool)
  /-- It noted something in the journal. -/
  | noted (note : Note)
  deriving DecidableEq, Repr

/-- Why a connection failed. -/
inductive LinkFailure where
  | fault (fault : Fault)
  | refusedBy (reason : String)
  | badFrame (error : FrameError)
  | unexpected (command : String)
  | badAddress (error : AddressError)
  | notConnected
  deriving DecidableEq, Repr

namespace LinkFailure

/-- The wording of a failure. -/
def message : LinkFailure → String
  | fault cause => cause.message
  | refusedBy reason => "Server refused connection: " ++ reason
  | badFrame error => error.message
  | unexpected command => "Expected CONNECTED, got " ++ command
  | badAddress error => error.message
  | notConnected => "Not connected to server"

/-- A failure that ends an attempt; the others end the whole run. -/
def isExpected : LinkFailure → Bool
  | fault .broken => false
  | badAddress _ => false
  | _ => true

end LinkFailure

/-- The task that empties the queue: none, at work, or stopped by a failed send. -/
inductive Sender where
  | none
  | working
  | failed
  deriving DecidableEq, Repr

/-- What a listener makes of the body of a message: nothing, or a failure with a message. -/
abbrev Listener := String → Option String

/-- The connection to the server. -/
structure Link where
  settings : ServerSettings := {}
  subscription : String
  /-- The number of the next identifier. -/
  nextId : Nat
  /-- The outcomes of the attempts to come; when none is left, nobody answers. -/
  attempts : List Attempt := []
  state : LinkState := .disconnected
  socket? : Option Socket := none
  failures : Int := 0
  running : Bool := false
  queue : List String := []
  sender : Sender := .none
  trace : List LinkEvent := []
  deriving Repr

namespace Link

/-- A link whose subscription has the first identifier. -/
def of (settings : ServerSettings) (attempts : List Attempt) : Link where
  settings := settings
  subscription := "sub-" ++ identifier 1
  nextId := 2
  attempts := attempts

/-- The link is connected and has a socket. -/
def isConnected (link : Link) : Bool :=
  link.state == .connected && link.socket?.isSome

/-- Keep an event at the end of the trace. -/
def record (link : Link) (event : LinkEvent) : Link :=
  { link with trace := link.trace ++ [event] }

/-- Note something in the journal, at a level. -/
def note (link : Link) (level : LogLevel) (message : String) : Link :=
  link.record (.noted { level, message })

/-- Write a frame; a failed send shows in no trace. -/
def write (link : Link) (frame : Frame) : Link × Option LinkFailure :=
  match link.socket? with
  | none => (link, some .notConnected)
  | some socket =>
      match socket.failingSend? with
      | some 1 =>
          ({ link with socket? := some { socket with failingSend? := none } },
            some (.fault .closed))
      | failing? =>
          let counted := { socket with failingSend? := failing?.map (· - 1) }
          ({ link with socket? := some counted }.record (.wrote frame), none)

/-- Close the socket, if there is one. -/
def closeSocket (link : Link) : Link :=
  match link.socket? with
  | none => link
  | some _ => { link.record .closed with socket? := none }

/-! ## Connecting -/

/-- What the first message that is no heart-beat means for the handshake. -/
def judge (message : Message) : Except LinkFailure Bool :=
  match Frame.decode? message with
  | .error error => .error (.badFrame error)
  | .ok none => .ok false
  | .ok (some frame) =>
      if frame.command = "CONNECTED" then .ok true
      else if frame.command = "ERROR" then
        .error (.refusedBy ((frame.header? "message").getD frame.body))
      else .error (.unexpected frame.command)

/-- Wait for the answer to the handshake; it leaves the items that were not read. -/
def awaitConnected : List HandshakeItem → List HandshakeItem × Option LinkFailure
  | [] => ([], some (.fault .closed))
  | .fault fault :: rest => (rest, some (.fault fault))
  | .message message :: rest =>
      match judge message with
      | .error failure => (rest, some failure)
      | .ok true => (rest, none)
      | .ok false => awaitConnected rest

/-- Wait for the answer to the handshake on the socket, and leave there what was not read. -/
def receiveConnected (link : Link) : Link × Option LinkFailure :=
  match link.socket? with
  | none => (link, some .notConnected)
  | some socket =>
      let (handshake, failure?) := awaitConnected socket.handshake
      ({ link with socket? := some { socket with handshake } }, failure?)

/-- Ask for a connection, wait for the answer and subscribe to the world. -/
def shakeHands (link : Link) : Link × Option LinkFailure :=
  match Address.host link.settings.url with
  | .error error => (link, some (.badAddress error))
  | .ok host =>
      match link.write (.connect (if host.isEmpty then "localhost" else host) 0) with
      | (link, some failure) => (link, some failure)
      | (link, none) =>
          match link.receiveConnected with
          | (link, some failure) => (link, some failure)
          | (link, none) =>
              link.write (.subscribe link.settings.worldTopic link.subscription)

/-- Take the next outcome of an attempt, which is a socket or a failure; if no time is allowed for
an attempt, it fails before it begins. -/
def openSocket (link : Link) : Link × Option LinkFailure :=
  if link.settings.connectTimeout.le 0 then (link, some (.fault .timeout))
  else
    let called := link.record (.called link.settings.url link.settings.heartbeatInterval)
    match link.attempts with
    | [] => (called, some (.fault .refused))
    | .fault fault :: attempts => ({ called with attempts }, some (.fault fault))
    | .opened socket :: attempts => ({ called with attempts, socket? := some socket }, none)

/-- Open a socket and shake hands. -/
def establish (link : Link) : Link × Option LinkFailure :=
  match link.openSocket with
  | (link, some failure) => (link, some failure)
  | (link, none) => link.shakeHands

/-- Connect, unless the link is connected; an expected failure only gives false. -/
def connect (link : Link) : Link × Except LinkFailure Bool :=
  if link.isConnected then (link, .ok true)
  else
    match establish { link with state := .connecting } with
    | (link, none) => ({ link with state := .connected, failures := 0 }, .ok true)
    | (link, some failure) =>
        if failure.isExpected then
          let noted := link.note .error ("Failed to connect to server: " ++ failure.message)
          ({ noted.closeSocket with state := .disconnected }, .ok false)
        else (link, .error failure)

/-! ## Sending -/

/-- Put a text into the queue, or drop it if the link is not connected. -/
def publish (link : Link) (text : String) : Link × Bool :=
  if link.isConnected then ({ link with queue := link.queue ++ [text] }, true)
  else (link.note .warning ("Not connected, dropping command: " ++ text), false)

/-- Send texts in order, up to the first send that fails; that text is lost. -/
def sendAll (link : Link) : List String → Link
  | [] => { link with queue := [] }
  | text :: rest =>
      match link.write (.send link.settings.commandDestination text) with
      | (link, none) => sendAll link rest
      | (link, some _) => { link with queue := rest, sender := .failed }

/-- Let the sender empty the queue, if it is at work. -/
def flush (link : Link) : Link :=
  if link.sender = .working then link.sendAll link.queue else link

/-- End the sender, tell of it if it had failed, and drop the texts that are left in the queue. -/
def stopSender (link : Link) : Link :=
  let told :=
    if link.sender = .failed then
      link.note .warning ("Sender stopped: " ++ Fault.closed.message)
    else link
  let stopped := { told with sender := .none, queue := [] }
  if link.queue.isEmpty then stopped
  else stopped.note .warning (s!"Dropped {link.queue.length} unsent command(s)")

/-- Take leave of the server if the link is connected, end the sender and close the socket; a run
ends with it. -/
def disconnect (link : Link) : Link :=
  let resting := { link with running := false }
  let left :=
    if link.isConnected then
      let (written, _) := resting.write (.disconnect (identifier link.nextId))
      { written with nextId := link.nextId + 1 }
    else resting
  { left.stopSender.closeSocket with state := .disconnected }

/-! ## Listening -/

/-- The body of a world update for this link, if a frame is one. -/
def update? (link : Link) (frame : Frame) : Option String :=
  if frame.command = "MESSAGE"
      ∧ (frame.header? "subscription").getD link.subscription = link.subscription then
    some frame.body
  else none

/-- Hand a body to the listener, if there is one. -/
def deliver (listener? : Option Listener) (link : Link) (body : String) : Link :=
  match listener? with
  | none => link
  | some listener =>
      let told := link.record (.delivered body (listener body))
      match listener body with
      | some failure => told.note .error ("Error handling world update: " ++ failure)
      | none => told

/-- A message arrives. -/
def handle (listener? : Option Listener) (link : Link) (message : Message) : Link :=
  match Frame.decode? message with
  | .error error => link.note .error ("Invalid STOMP frame: " ++ error.message)
  | .ok none => link
  | .ok (some frame) =>
      match link.update? frame with
      | some body => deliver listener? link body
      | none =>
          if frame.command = "MESSAGE" || frame.command = "RECEIPT" then link
          else if frame.command = "ERROR" then
            link.note .error (trimmed
              ("Server error: " ++ (frame.header? "message").getD "" ++ " " ++ frame.body))
          else link.note .warning ("Unexpected frame: " ++ frame.command)

/-- Deal with the items of a stream in order, and let the sender go on after each; a fault ends the
stream. -/
def listenTo (listener? : Option Listener) : Link → List StreamItem → Link × Option Fault
  | link, [] => (link, none)
  | link, .message message :: rest =>
      listenTo listener? (link.handle listener? message).flush rest
  | link, .publish text waits :: rest =>
      let (published, accepted) := link.publish text
      let told := published.record (.published text accepted)
      listenTo listener? (if waits then told else told.flush) rest
  | link, .disconnect :: rest => listenTo listener? link.disconnect.flush rest
  | link, .fault fault :: _ => (link, some fault)

/-- Tell how a stream ended; after a fault that was not expected, close the socket and wait for a
second. -/
def noteEnd (link : Link) : Option Fault → Link
  | none =>
      if link.running then link.note .warning "Server closed the connection" else link
  | some .closed => link.note .warning ("Connection closed: " ++ Fault.closed.message)
  | some fault =>
      let told := ((link.note .error "EXCEPTION in message loop").note .error
        ("  Type: " ++ fault.kind)).note .error ("  Message: " ++ fault.message)
      told.closeSocket.record (.slept 1)

/-- Listen until the stream ends. -/
def listen (listener? : Option Listener) (link : Link) : Link :=
  let items := (link.socket?.map Socket.stream).getD []
  let (heard, fault?) := listenTo listener? { link with sender := .working } items
  let stopped := (heard.noteEnd fault?).stopSender
  if stopped.running then { stopped with state := .reconnecting, socket? := none } else stopped

/-! ## Running -/

/-- How a turn of the run ends. -/
inductive Turn where
  | goOn
  | finished
  | escaped (failure : LinkFailure)
  deriving DecidableEq, Repr

/-- One turn of the run: connect if need be, then listen until the stream ends. -/
def turn (listener? : Option Listener) (link : Link) : Link × Turn :=
  if !link.running then (link, .finished)
  else
    match link.connect with
    | (link, .error failure) => (link, .escaped failure)
    | (link, .ok true) => (link.listen listener?, .goOn)
    | (link, .ok false) =>
        let counted := { link with failures := link.failures + 1 }
        if link.settings.maxReconnectAttempts < counted.failures then
          (counted.note .error "Max reconnection attempts reached", .finished)
        else (counted.record (.slept link.settings.reconnectDelay), .goOn)

/-- Take turns until one does not go on, but no more than a number of turns. -/
def runFor (listener? : Option Listener) : Nat → Link → Link × Option LinkFailure
  | 0, link => (link, none)
  | turns + 1, link =>
      match link.turn listener? with
      | (link, .goOn) => runFor listener? turns link
      | (link, .finished) => (link, none)
      | (link, .escaped failure) => (link, some failure)

/-- More turns than a run can take: one for each attempt, and the failures that are allowed. -/
def turnLimit (link : Link) : Nat :=
  link.attempts.length + link.settings.maxReconnectAttempts.toNat + link.failures.natAbs + 3

/-- Connect, listen and connect again until the link is told to disconnect or gives up. -/
def run (listener? : Option Listener) (link : Link) : Link × Option LinkFailure :=
  let started := { link with running := true }
  runFor listener? started.turnLimit started

end Link

end SceneEditor
