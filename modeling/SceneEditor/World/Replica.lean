import SceneEditor.Json.Encoding
import SceneEditor.Json.Numeric
import SceneEditor.World.Snapshot

namespace SceneEditor

/-!
# The replica of the world

The replica applies the messages of the server in the order in which they arrive.  A message that
cannot be read or is malformed is counted and changes nothing else.  The time may be shown ahead
of the server; the next snapshot that carries a time overrides it.
-/

/-- The world as it is known here, and how many messages were dropped. -/
structure Replica where
  world : World := {}
  dropped : Nat := 0
  deriving Repr

/-- Why a message was dropped. -/
inductive DropReason where
  | unreadable (error : Json.ReadError)
  | malformed (error : SnapshotError)
  deriving DecidableEq, Repr

/-- How the kind of an error is called in the journal. -/
def Json.ReadError.title : Json.ReadError → String
  | malformed => "JSONDecodeError"
  | tooManyDigits => "ValueError"
  | tooDeep => "RecursionError"
  | undecodable => "UnicodeDecodeError"

/-- The wording of a reason. -/
def DropReason.message : DropReason → String
  | unreadable error => "Dropping undecodable snapshot: " ++ error.title
  | malformed error => "Dropping malformed snapshot: " ++ error.message

/-- What became of a message. -/
inductive Receipt where
  /-- The message was dropped. -/
  | refused (reason : DropReason)
  /-- The message was merged, which changed the connections to the list that is given, if to any. -/
  | merged (changed? : Option (List Connection))
  deriving Repr

namespace Replica

/-- Merge a snapshot into the world, and tell the connections if they changed. -/
def apply (replica : Replica) (payload : Json) : Except SnapshotError (Replica × Receipt) := do
  let world ← replica.world.merge payload
  let changed? :=
    if connectionsAgree world.connections replica.world.connections then none
    else some world.connections
  return ({ replica with world }, .merged changed?)

/-- Count a message that is dropped, and keep the world. -/
def refuse (replica : Replica) (reason : DropReason) : Replica × Receipt :=
  ({ replica with dropped := replica.dropped + 1 }, .refused reason)

/-- Read a message and merge what it holds. -/
def receive (replica : Replica) (message : Message) : Replica × Receipt :=
  match message.json with
  | .error error => replica.refuse (.unreadable error)
  | .ok payload =>
      match replica.apply payload with
      | .error error => replica.refuse (.malformed error)
      | .ok result => result

/-- Show a time ahead of the server. -/
def showTime (replica : Replica) (time : Binary64) : Replica :=
  { replica with world := { replica.world with currentTime := time } }

end Replica

end SceneEditor
