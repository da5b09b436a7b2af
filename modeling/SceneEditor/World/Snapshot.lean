import SceneEditor.World.Basic

namespace SceneEditor

/-!
# Snapshots

A snapshot is an object that carries any of seven fields of the world.  A field that is there
replaces the old value; a field that is missing or null keeps it, except the collections and
the clips, which become empty.  A snapshot with any malformed part changes nothing.
-/

/-- Why a snapshot is malformed. -/
inductive SnapshotError where
  /-- Something other than an object where `what` is wanted. -/
  | notObject (what kind : String)
  /-- Something other than a list of records. -/
  | notList (kind : String)
  /-- A record without a field that it needs. -/
  | missing (record key : String)
  /-- A field of a record that is not a number. -/
  | notNumber (record key shown : String)
  /-- A field of a record that is an integer too large for a number. -/
  | outOfRange (record key : String)
  /-- A field of a record that is not an integer. -/
  | notInteger (record key shown : String)
  /-- The points of a face are not a list of integers. -/
  | badPointIds (shown : String)
  /-- The points of a collection are not a list of integers. -/
  | badCollection (name : String)
  /-- The time is not a number. -/
  | badTime (shown : String)
  /-- The time is an integer too large for a number. -/
  | timeOutOfRange
  /-- The play state is not a truth value. -/
  | badFlag (shown : String)
  /-- A malformed field of the snapshot. -/
  | inField (key : String) (error : SnapshotError)
  deriving DecidableEq, Repr

/-- The wording of an error. -/
def SnapshotError.message : SnapshotError → String
  | notObject what kind => s!"{what} must be an object, got {kind}"
  | notList kind => s!"Expected a list, got {kind}"
  | missing record key => s!"{record} is missing '{key}'"
  | notNumber record key shown => s!"{record}.{key} must be a number, got {shown}"
  | outOfRange record key => s!"{record}.{key} is out of range"
  | notInteger record key shown => s!"{record}.{key} must be an integer, got {shown}"
  | badPointIds shown => s!"face.pointIds must be a list of integers, got {shown}"
  | badCollection name => s!"collection '{name}' must be a list of integers"
  | badTime shown => s!"currentTime must be a number, got {shown}"
  | timeOutOfRange => "currentTime is out of range"
  | badFlag shown => s!"isPlaying must be a boolean, got {shown}"
  | inField key error => key ++ ": " ++ error.message

namespace Snapshot

/-- The fields of an object. -/
abbrev Fields := List (String × Json)

/-- The fields of a value that has to be an object. -/
def fieldsOf (what : String) : Json → Except SnapshotError Fields
  | .object fields => .ok fields
  | value => .error (.notObject what value.kind)

/-- The value of a field that has to be there and not null. -/
def required (record key : String) (fields : Fields) : Except SnapshotError Json :=
  match Json.present? key fields with
  | some value => .ok value
  | none => .error (.missing record key)

/-- A field that has to be a number; a truth value is none. -/
def number (record key : String) (fields : Fields) : Except SnapshotError Binary64 := do
  match ← required record key fields with
  | .number value =>
      match value.toReal with
      | .ok real => return real
      | .error _ => throw (.outOfRange record key)
  | value => throw (.notNumber record key value.display)

/-- A field that has to be a number if it is there. -/
def number? (record key : String) (fields : Fields) : Except SnapshotError (Option Binary64) :=
  match Json.present? key fields with
  | some _ => some <$> number record key fields
  | none => .ok none

/-- A field that has to be an integer; a truth value is none. -/
def integer (record key : String) (fields : Fields) : Except SnapshotError Int := do
  match ← required record key fields with
  | .number (.int value) => return value
  | value => throw (.notInteger record key value.display)

/-- The text of a field, or another text if the field is missing, null, false, zero or empty. -/
def textOr (default key : String) (fields : Fields) : String :=
  match Json.field? key fields with
  | some value => if value.isTruthy then value.plainText else default
  | none => default

/-- The integers of a list that holds nothing else. -/
def integers? : Json → Option (List Int)
  | .array items =>
      items.mapM fun
        | .number (.int value) => some value
        | _ => none
  | _ => none

/-- Three fields that are a position if all of them are there. -/
def position?
    (xKey yKey zKey : String)
    (fields : Fields) :
    Except SnapshotError (Option Position) :=
  if [xKey, yKey, zKey].all fun key => (Json.present? key fields).isSome then do
    let x ← number "clip" xKey fields
    let y ← number "clip" yKey fields
    let z ← number "clip" zKey fields
    return some { x, y, z }
  else
    .ok none

/-- The point that a record describes. -/
def point (value : Json) : Except SnapshotError Point := do
  let fields ← fieldsOf "point" value
  let id ← integer "point" "id" fields
  let x ← number "point" "x" fields
  let y ← number "point" "y" fields
  let z ← number "point" "z" fields
  return { id, x, y, z, color := textOr "#ffffff" "color" fields }

/-- The connection that a record describes; its color has to be there, whatever it is. -/
def connection (value : Json) : Except SnapshotError Connection := do
  let fields ← fieldsOf "connection" value
  let fromId ← integer "connection" "fromId" fields
  let toId ← integer "connection" "toId" fields
  let color ← required "connection" "color" fields
  let thickness ← number "connection" "thickness" fields
  return { fromId, toId, color := color.plainText, thickness }

/-- The face that a record describes. -/
def face (value : Json) : Except SnapshotError Face := do
  let fields ← fieldsOf "face" value
  let ids ← required "face" "pointIds" fields
  match integers? ids with
  | some pointIds => return { pointIds, color := textOr "#888888" "color" fields }
  | none => throw (.badPointIds ids.display)

/-- The clip that a record describes; without a name it is called by its kind and its point. -/
def clip (value : Json) : Except SnapshotError Clip := do
  let fields ← fieldsOf "clip" value
  let id ← required "clip" "id" fields
  let kind := textOr "Move" "type" fields
  let targetId ← integer "clip" "targetId" fields
  let startPosition? ← position? "sx" "sy" "sz" fields
  let endPosition? ← position? "ex" "ey" "ez" fields
  let startTime ← number "clip" "startTime" fields
  let endTime ← number "clip" "endTime" fields
  let value? ← number? "clip" "value" fields
  return {
    id := id.plainText
    name := textOr (kind ++ " " ++ pointRef targetId) "name" fields
    targetId, kind, startTime, endTime
    axis := (Json.field? "axis" fields).getD .null
    value?, startPosition?, endPosition?
  }

/-- The records of a list, each read in turn. -/
def records (record : Json → Except SnapshotError α) : Json → Except SnapshotError (List α)
  | .array items => items.mapM record
  | value => .error (.notList value.kind)

/-- The collections that an object describes, by their names. -/
def collections (value : Json) : Except SnapshotError (List (String × List Int)) := do
  let fields ← fieldsOf "collections" value
  fields.mapM fun (name, ids) =>
    match integers? ids with
    | some members => .ok (name, members)
    | none => .error (.badCollection name)

/-- The time, which has to be a number. -/
def time : Json → Except SnapshotError Binary64
  | .number value =>
      match value.toReal with
      | .ok real => .ok real
      | .error _ => .error .timeOutOfRange
  | value => .error (.badTime value.display)

/-- The play state, which has to be a truth value. -/
def flag : Json → Except SnapshotError Bool
  | .bool value => .ok value
  | value => .error (.badFlag value.display)

/-- The value of one field of a snapshot, if the snapshot carries it. -/
def carried?
    (key : String)
    (parse : Json → Except SnapshotError α)
    (fields : Fields) :
    Except SnapshotError (Option α) :=
  match Json.present? key fields with
  | none => .ok none
  | some value =>
      match parse value with
      | .ok parsed => .ok (some parsed)
      | .error error => .error (.inField key error)

end Snapshot

/-- The world after a snapshot. -/
def World.merge (world : World) (payload : Json) : Except SnapshotError World := do
  let fields ← Snapshot.fieldsOf "snapshot" payload
  let points? ← Snapshot.carried? "points" (Snapshot.records Snapshot.point) fields
  let connections? ←
    Snapshot.carried? "connections" (Snapshot.records Snapshot.connection) fields
  let faces? ← Snapshot.carried? "faces" (Snapshot.records Snapshot.face) fields
  let collections? ← Snapshot.carried? "collections" Snapshot.collections fields
  let time? ← Snapshot.carried? "currentTime" Snapshot.time fields
  let flag? ← Snapshot.carried? "isPlaying" Snapshot.flag fields
  let clips? ← Snapshot.carried? "clips" (Snapshot.records Snapshot.clip) fields
  return {
    points := points?.getD world.points
    connections := connections?.getD world.connections
    faces := faces?.getD world.faces
    collections := collections?.getD []
    currentTime := time?.getD world.currentTime
    isPlaying := flag?.getD world.isPlaying
    clips := clips?.getD []
  }

end SceneEditor
