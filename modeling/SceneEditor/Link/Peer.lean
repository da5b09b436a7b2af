import SceneEditor.Number.Num
import SceneEditor.Text.Utf8

namespace SceneEditor

/-!
# The other side of the connection

The settings tell where the server is.  What it does is given in advance: one outcome for each
attempt to open a socket, and for a socket the messages of the handshake and what happens while the
client listens.
-/

/-- Where the server is, and how patient the connection to it is. -/
structure ServerSettings where
  url : String := "ws://localhost:8080/3d-ws/websocket"
  commandDestination : String := "/app/send-command"
  worldTopic : String := "/topic/world-updates"
  reconnectDelay : Num := .real 5
  maxReconnectAttempts : Int := 10
  heartbeatInterval : Num := .real 30
  connectTimeout : Num := .real 10
  deriving DecidableEq, Repr

/-- What may go wrong with a socket. -/
inductive Fault where
  /-- Nobody answers. -/
  | refused
  /-- The connection was closed. -/
  | closed
  /-- An answer took too long. -/
  | timeout
  /-- Anything else. -/
  | broken
  deriving DecidableEq, Repr

/-- The wording of a fault. -/
def Fault.message : Fault → String
  | refused => "connection refused"
  | closed => "closed"
  | timeout => ""
  | broken => "stream broke"

/-- How the kind of a fault is called in the journal. -/
def Fault.kind : Fault → String
  | refused => "OSError"
  | closed => "ConnectionClosed"
  | timeout => "TimeoutError"
  | broken => "RuntimeError"

/-- What a client receives during the handshake. -/
inductive HandshakeItem where
  | message (message : Message)
  | fault (fault : Fault)
  deriving DecidableEq, Repr

/-- What happens while the client listens. -/
inductive StreamItem where
  /-- A message arrives. -/
  | message (message : Message)
  /-- The socket fails. -/
  | fault (fault : Fault)
  /-- A text is published; unless it waits, the queue is sent before anything else happens. -/
  | publish (text : String) (waits : Bool)
  /-- The client is asked to disconnect. -/
  | disconnect
  deriving DecidableEq, Repr

/-- An open socket: what is still to come, and how many sends succeed before one fails. -/
structure Socket where
  handshake : List HandshakeItem := []
  stream : List StreamItem := []
  /-- The number of the send that fails, counted from one and from now. -/
  failingSend? : Option Nat := none
  deriving DecidableEq, Repr

/-- The outcome of an attempt to open a socket. -/
inductive Attempt where
  | fault (fault : Fault)
  | opened (socket : Socket)
  deriving DecidableEq, Repr

end SceneEditor
