import SceneEditor.Proofs.Attempt
import SceneEditor.World.Replica

namespace SceneEditor

/-!
# Reading a snapshot apart from merging it

A snapshot is read without looking at the world, and what was read is then put into the world.
Merging is the two in this order, so a snapshot is accepted in every world or in none.
-/

/-- What a well-formed snapshot carries: the fields that are there and not null, read. -/
structure Snapshot where
  points? : Option (List Point) := none
  connections? : Option (List Connection) := none
  faces? : Option (List Face) := none
  collections? : Option (List (String × List Int)) := none
  time? : Option Binary64 := none
  flag? : Option Bool := none
  clips? : Option (List Clip) := none
  deriving Repr

/-- Read the seven fields of a payload. -/
def Snapshot.ofPayload (payload : Json) : Except SnapshotError Snapshot := do
  let fields ← fieldsOf "snapshot" payload
  let points? ← carried? "points" (records point) fields
  let connections? ← carried? "connections" (records connection) fields
  let faces? ← carried? "faces" (records face) fields
  let collections? ← carried? "collections" collections fields
  let time? ← carried? "currentTime" time fields
  let flag? ← carried? "isPlaying" flag fields
  let clips? ← carried? "clips" (records clip) fields
  return { points?, connections?, faces?, collections?, time?, flag?, clips? }

/-- Put what a snapshot carries into the world. -/
def World.update (world : World) (snapshot : Snapshot) : World where
  points := snapshot.points?.getD world.points
  connections := snapshot.connections?.getD world.connections
  faces := snapshot.faces?.getD world.faces
  collections := snapshot.collections?.getD []
  currentTime := snapshot.time?.getD world.currentTime
  isPlaying := snapshot.flag?.getD world.isPlaying
  clips := snapshot.clips?.getD []

/-- The snapshot that a message holds, if it can be read and is well-formed. -/
def Message.snapshot? (message : Message) : Option Snapshot :=
  message.json.toOption.bind fun payload => (Snapshot.ofPayload payload).toOption

/-- A message holds a snapshot exactly if it holds a payload that is well-formed. -/
theorem Message.snapshot?_eq_some_iff
    {message : Message}
    {snapshot : Snapshot} :
    message.snapshot? = some snapshot ↔
      ∃ payload, message.json = .ok payload ∧ Snapshot.ofPayload payload = .ok snapshot := by
  unfold snapshot?
  cases message.json with
  | error error =>
      simp [Except.toOption]
  | ok payload =>
      cases read : Snapshot.ofPayload payload with
      | error error =>
          simp [Except.toOption, read]
      | ok other =>
          simp [Except.toOption, read]

/-- Merging is reading and then updating. -/
theorem World.merge_eq
    (world : World)
    (payload : Json) :
    world.merge payload = (Snapshot.ofPayload payload).map world.update := by
  have mapped :
      (Snapshot.ofPayload payload).map world.update =
        world.update <$> Snapshot.ofPayload payload :=
    rfl
  rw [mapped, World.merge, Snapshot.ofPayload]
  simp only [map_bind, map_pure]
  rfl

namespace Snapshot

/-- A field is read as absent exactly where its key is missing or null. -/
theorem carried?_eq_ok_none_iff
    {key : String}
    {parse : Json → Except SnapshotError α}
    {fields : Fields} :
    carried? key parse fields = .ok none ↔ Json.present? key fields = none := by
  unfold carried?
  cases Json.present? key fields with
  | none =>
      simp
  | some value =>
      cases read : parse value with
      | error error =>
          simp [read]
      | ok parsed =>
          simp [read]

/-- A field that is there is read as its parser reads it. -/
theorem carried?_eq_ok_some_iff
    {key : String}
    {parse : Json → Except SnapshotError α}
    {fields : Fields}
    {parsed : α} :
    carried? key parse fields = .ok (some parsed) ↔
      ∃ value, Json.present? key fields = some value ∧ parse value = .ok parsed := by
  unfold carried?
  cases Json.present? key fields with
  | none =>
      simp
  | some value =>
      cases read : parse value with
      | error error =>
          simp [read]
      | ok other =>
          simp [read]

theorem fieldsOf_eq_ok
    {what : String}
    {value : Json}
    {fields : Fields}
    (isObject : fieldsOf what value = .ok fields) :
    value = .object fields := by
  cases value with
  | object held =>
      simpa [fieldsOf] using isObject
  | _ =>
      simp [fieldsOf] at isObject

/-- A payload is well-formed exactly if it is an object all of whose seven fields are. -/
theorem ofPayload_eq_ok_iff
    {payload : Json}
    {snapshot : Snapshot} :
    ofPayload payload = .ok snapshot ↔
      ∃ fields, payload = .object fields ∧
        carried? "points" (records point) fields = .ok snapshot.points? ∧
        carried? "connections" (records connection) fields = .ok snapshot.connections? ∧
        carried? "faces" (records face) fields = .ok snapshot.faces? ∧
        carried? "collections" collections fields = .ok snapshot.collections? ∧
        carried? "currentTime" time fields = .ok snapshot.time? ∧
        carried? "isPlaying" flag fields = .ok snapshot.flag? ∧
        carried? "clips" (records clip) fields = .ok snapshot.clips? := by
  constructor
  · intro read
    simp only [ofPayload, Attempt.bind_eq_ok_iff, pure, Except.pure, Except.ok.injEq] at read
    obtain ⟨fields, isObject, points?, points, connections?, connections, faces?, faces,
      collections?, collections, time?, time, flag?, flag, clips?, clips, rfl⟩ := read
    exact ⟨fields, fieldsOf_eq_ok isObject, points, connections, faces, collections, time, flag,
      clips⟩
  · rintro ⟨fields, rfl, points, connections, faces, collections, time, flag, clips⟩
    simp [ofPayload, fieldsOf, points, connections, faces, collections, time, flag, clips, bind,
      Except.bind, pure, Except.pure]

end Snapshot

namespace Replica

/-- A message that holds a snapshot is merged. -/
theorem receive_accepted
    (replica : Replica)
    {message : Message}
    {snapshot : Snapshot}
    (accepted : message.snapshot? = some snapshot) :
    replica.receive message =
      ({ replica with world := replica.world.update snapshot },
        .merged
          (if connectionsAgree (replica.world.update snapshot).connections
              replica.world.connections then none
          else some (replica.world.update snapshot).connections)) := by
  obtain ⟨payload, held, read⟩ := Message.snapshot?_eq_some_iff.mp accepted
  simp [receive, held, apply, World.merge_eq, read, Except.map, bind, Except.bind, pure,
    Except.pure]

/-- A message that holds no snapshot is counted and changes nothing else. -/
theorem receive_dropped
    (replica : Replica)
    {message : Message}
    (refused : message.snapshot? = none) :
    ∃ reason, replica.receive message = replica.refuse reason := by
  unfold Message.snapshot? at refused
  unfold receive
  cases decoded : message.json with
  | error error =>
      exact ⟨.unreadable error, rfl⟩
  | ok payload =>
      cases read : Snapshot.ofPayload payload with
      | error error =>
          refine ⟨.malformed error, ?_⟩
          simp [apply, World.merge_eq, read, Except.map, bind, Except.bind]
      | ok snapshot =>
          simp [decoded, read, Except.toOption] at refused

end Replica

end SceneEditor
