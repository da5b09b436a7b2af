import SceneEditor.Proofs.Json.KeyOrder
import SceneEditor.Proofs.World.Schema

namespace SceneEditor

/-!
# What a snapshot is read from

A parser looks its fields up by their keys.  It cannot tell in which order an object has its keys,
and never sees a key that it does not ask for.  There is one thing to except: a value that is shown
as a text, such as a color, may be or hold an object of several keys, and its text has these in
their order.  That concerns the one text alone, and no other text of any record.
-/

open Attempt
open Json (Rearranged AlikeAt AlikeLists AlikeObjects alikeLists_of_rearranged
  alikeObjects_of_rearranged)

namespace Snapshot

/-- The two objects have the same at every one of the keys, up to the order of keys.  What else they
have, and in which order, is left open. -/
def AlikeOn
    (keys : List String)
    (left right : Fields) :
    Prop :=
  ∀ key ∈ keys, AlikeAt Rearranged key left right

/-- The keys that are read of a point. -/
def pointKeys : List String :=
  ["id", "x", "y", "z", "color"]

/-- The keys that are read of a connection. -/
def connectionKeys : List String :=
  ["fromId", "toId", "color", "thickness"]

/-- The keys that are read of a face. -/
def faceKeys : List String :=
  ["pointIds", "color"]

/-- The keys that are read of a clip. -/
def clipKeys : List String :=
  [
    "id", "name", "type", "targetId", "sx", "sy", "sz", "ex", "ey", "ez", "startTime", "endTime",
    "axis", "value"
  ]

/-- The two snapshots have the same at every known key, and so have their records, up to the order
of keys. -/
structure Alike (left right : Fields) : Prop where
  points : AlikeAt (AlikeLists (AlikeObjects (AlikeOn pointKeys))) "points" left right
  connections :
    AlikeAt (AlikeLists (AlikeObjects (AlikeOn connectionKeys))) "connections" left right
  faces : AlikeAt (AlikeLists (AlikeObjects (AlikeOn faceKeys))) "faces" left right
  collections : AlikeAt Rearranged "collections" left right
  time : AlikeAt Rearranged "currentTime" left right
  flag : AlikeAt Rearranged "isPlaying" left right
  clips : AlikeAt (AlikeLists (AlikeObjects (AlikeOn clipKeys))) "clips" left right

/-- The value that the record has at the key, if any, has one order of keys only, and so one text. -/
def HasOneText
    (record : Json)
    (key : String) :
    Prop :=
  ∀ value, record.member? key = some value → value.HasOneOrder

/-- The record has a text at the key, and not the default in its place. -/
def GivesText
    (record : Json)
    (key : String) :
    Prop :=
  ∃ value, record.member? key = some value ∧ value.isTruthy = true

/-- What is read at a key of a snapshot is related in a way that the value there decides, and is the
same where the snapshot has no value. -/
def FieldMatches
    (related : Json → α → α → Prop)
    (source? : Option Json)
    (left right : α) :
    Prop :=
  match source? with
  | some source => related source left right
  | none => left = right

/-- The records are as many as the items of the list, and each two are related in a way that their
own item decides. -/
def RecordsMatch
    (related : Json → α → α → Prop)
    (source : Json)
    (left right : List α) :
    Prop :=
  match source with
  | .array items => Forall₃ related items left right
  | _ => False

end Snapshot

open Snapshot

/-!
## What is read is the same
-/

/-- The points that are read of a record and of its like: they differ in their colors at most, and
not even there if the record has one text for its color. -/
structure Point.Matches
    (record : Json)
    (left right : Point) :
    Prop where
  rest : { left with color := right.color } = right
  color : HasOneText record "color" → left.color = right.color

/-- The same for connections. -/
structure Connection.Matches
    (record : Json)
    (left right : Connection) :
    Prop where
  rest : { left with color := right.color } = right
  color : HasOneText record "color" → left.color = right.color

/-- The same for faces. -/
structure Face.Matches
    (record : Json)
    (left right : Face) :
    Prop where
  rest : { left with color := right.color } = right
  color : HasOneText record "color" → left.color = right.color

/-- The clips differ in their texts at most, in each of them only if the record has several texts for
it; a clip without a name has the name that its kind gives it.  The axis may have its keys in another
order. -/
structure Clip.Matches
    (record : Json)
    (left right : Clip) :
    Prop where
  rest :
    { left with
      id := right.id
      name := right.name
      kind := right.kind
      axis := right.axis } = right
  axis : Json.Rearranged left.axis right.axis
  id : HasOneText record "id" → left.id = right.id
  kind : HasOneText record "type" → left.kind = right.kind
  name :
    HasOneText record "name" →
      GivesText record "name" ∨ HasOneText record "type" →
        left.name = right.name

/-- The worlds hold matching records at the same places, the same time and play state, and the same
collections, in whichever order. -/
structure World.Matches
    (payload : Json)
    (left right : World) :
    Prop where
  points :
    FieldMatches (RecordsMatch Point.Matches) (payload.member? "points") left.points right.points
  connections :
    FieldMatches (RecordsMatch Connection.Matches) (payload.member? "connections")
      left.connections right.connections
  faces :
    FieldMatches (RecordsMatch Face.Matches) (payload.member? "faces") left.faces right.faces
  collections : left.collections.Perm right.collections
  time : left.currentTime = right.currentTime
  flag : left.isPlaying = right.isPlaying
  clips : FieldMatches (RecordsMatch Clip.Matches) (payload.member? "clips") left.clips right.clips

/-!
## Reading like values
-/

namespace Snapshot

/-- What is read behind a required key agrees if it does so for each value. -/
theorem agree_required_bind
    {record key : String}
    {like : Json → Json → Prop}
    {related : α → β → Prop}
    {nextLeft : Json → Except SnapshotError α}
    {nextRight : Json → Except SnapshotError β}
    {left right : Fields}
    (nexts :
      ∀ one other, Json.present? key left = some one → like one other →
        Agree related (nextLeft one) (nextRight other))
    (alike : AlikeAt like key left right) :
    Agree related (required record key left >>= nextLeft)
      (required record key right >>= nextRight) := by
  unfold required
  obtain ⟨noOld, noNew⟩ | ⟨old, new, isOld, isNew, values⟩ := alike.cases
  · rw [noOld, noNew]
    exact trivial
  · rw [isOld, isNew]
    exact nexts old new isOld values

/-- A reader that refuses lists and objects cannot tell the order of keys. -/
theorem agree_scalar
    {read : Json → Except SnapshotError α}
    (noList : ∀ items, ¬ Succeeds (read (.array items)))
    (noObject : ∀ fields, ¬ Succeeds (read (.object fields)))
    {left right : Json}
    (rearranged : Rearranged left right) :
    Agree Eq (read left) (read right) := by
  have refused {one other : Except SnapshotError α}
      (first : ¬ Succeeds one)
      (second : ¬ Succeeds other) :
      Agree Eq one other := by
    cases one with
    | ok value =>
        exact absurd (succeeds_ok value) first
    | error failure =>
        cases other with
        | ok value =>
            exact absurd (succeeds_ok value) second
        | error _ =>
            exact trivial
  cases rearranged with
  | same value =>
      exact .of_eq (fun _ => rfl) rfl
  | array items =>
      exact refused (noList _) (noList _)
  | object distinct reordered sameKeys values =>
      exact refused (noObject _) (noObject _)

/-- A required scalar does not depend on the order of keys, since no list and no object is one. -/
theorem agree_required_scalar
    {record key : String}
    {read : Json → Except SnapshotError α}
    (noList : ∀ items, ¬ Succeeds (read (.array items)))
    (noObject : ∀ fields, ¬ Succeeds (read (.object fields)))
    {left right : Fields}
    (alike : AlikeAt Rearranged key left right) :
    Agree Eq (required record key left >>= read) (required record key right >>= read) :=
  agree_required_bind (fun _ _ _ => agree_scalar noList noObject) alike

theorem agree_number
    (record : String)
    {key : String}
    {left right : Fields}
    (alike : AlikeAt Rearranged key left right) :
    Agree Eq (number record key left) (number record key right) := by
  refine agree_required_scalar ?_ ?_ alike
  · exact fun items => not_succeeds_error _
  · exact fun fields => not_succeeds_error _

theorem agree_integer
    (record : String)
    {key : String}
    {left right : Fields}
    (alike : AlikeAt Rearranged key left right) :
    Agree Eq (integer record key left) (integer record key right) := by
  refine agree_required_scalar ?_ ?_ alike
  · exact fun items => not_succeeds_error _
  · exact fun fields => not_succeeds_error _

/-- A field that is missing, null, false, zero or empty is read as if it were missing. -/
theorem textOr_eq
    (default key : String)
    (fields : Fields) :
    textOr default key fields =
      match Json.present? key fields with
      | some value => if value.isTruthy then value.plainText else default
      | none => default := by
  unfold textOr Json.present?
  cases Json.field? key fields with
  | none =>
      rfl
  | some value =>
      cases value with
      | null =>
          rfl
      | _ =>
          rfl

theorem textOr_of_present?_eq
    {key : String}
    {left right : Fields}
    (same : Json.present? key left = Json.present? key right)
    (default : String) :
    textOr default key left = textOr default key right := by
  rw [textOr_eq, textOr_eq, same]

theorem agree_number?
    (record : String)
    {key : String}
    {left right : Fields}
    (alike : AlikeAt Rearranged key left right) :
    Agree Eq (number? record key left) (number? record key right) := by
  have numbers := agree_number record alike
  unfold number?
  obtain ⟨noOld, noNew⟩ | ⟨old, new, isOld, isNew, -⟩ := alike.cases
  · rw [noOld, noNew]
    exact rfl
  · rw [isOld, isNew]
    exact numbers.map fun _ _ same => congrArg some same

theorem agree_position?
    {xKey yKey zKey : String}
    {left right : Fields}
    (alike : ∀ key ∈ [xKey, yKey, zKey], AlikeAt Rearranged key left right) :
    Agree Eq (position? xKey yKey zKey left) (position? xKey yKey zKey right) := by
  obtain ⟨x, y, z, -⟩ := by simpa only [List.forall_mem_cons] using alike
  have sameCondition :
      ([xKey, yKey, zKey].all fun key => (Json.present? key left).isSome) =
        [xKey, yKey, zKey].all fun key => (Json.present? key right).isSome := by
    simp only [List.all_cons, x.isSome_eq, y.isSome_eq, z.isSome_eq, List.all_nil]
  unfold position?
  rw [sameCondition]
  by_cases allThere : [xKey, yKey, zKey].all fun key => (Json.present? key right).isSome
  · rw [if_pos allThere, if_pos allThere]
    refine (agree_number "clip" x).bind fun _ _ sameX => ?_
    refine (agree_number "clip" y).bind fun _ _ sameY => ?_
    refine (agree_number "clip" z).bind fun _ _ sameZ => ?_
    subst sameX sameY sameZ
    exact rfl
  · rw [if_neg allThere, if_neg allThere]
    exact rfl

/-- A list of integers does not depend on the order of keys. -/
theorem integers?_of_rearranged
    {left right : Json}
    (rearranged : Rearranged left right) :
    integers? left = integers? right := by
  cases rearranged with
  | same =>
      rfl
  | object =>
      rfl
  | array items =>
      refine mapM_congr (items.imp fun one other item => ?_)
      cases item with
      | same =>
          rfl
      | _ =>
          rfl

/-- What is read of the fields of an object agrees if it does so for like fields. -/
theorem agree_fieldsOf_bind
    {what : String}
    {like : Fields → Fields → Prop}
    {related : α → β → Prop}
    {nextLeft : Fields → Except SnapshotError α}
    {nextRight : Fields → Except SnapshotError β}
    {left right : Json}
    (nexts :
      ∀ one other, left = .object one → like one other →
        Agree related (nextLeft one) (nextRight other))
    (alike : AlikeObjects like left right) :
    Agree related (fieldsOf what left >>= nextLeft) (fieldsOf what right >>= nextRight) := by
  cases left with
  | object fields =>
      cases right with
      | object others =>
          exact nexts fields others rfl alike
      | _ =>
          exact alike.elim
  | _ =>
      cases right with
      | object others =>
          exact alike.elim
      | _ =>
          exact trivial

/-- Rearranged points are read alike, but for a color whose text shows its keys. -/
theorem agree_point
    (left right : Json)
    (alike : AlikeObjects (AlikeOn pointKeys) left right) :
    Agree (Point.Matches left) (point left) (point right) := by
  refine agree_fieldsOf_bind (fun one other isObject known => ?_) alike
  refine (agree_integer "point" (known "id" (by decide))).bind fun _ _ sameId => ?_
  refine (agree_number "point" (known "x" (by decide))).bind fun _ _ sameX => ?_
  refine (agree_number "point" (known "y" (by decide))).bind fun _ _ sameY => ?_
  refine (agree_number "point" (known "z" (by decide))).bind fun _ _ sameZ => ?_
  subst isObject sameId sameX sameY sameZ
  refine ⟨rfl, fun oneText => ?_⟩
  exact textOr_of_present?_eq ((known "color" (by decide)).eq_of_hasOneOrder oneText) _

theorem agree_connection
    (left right : Json)
    (alike : AlikeObjects (AlikeOn connectionKeys) left right) :
    Agree (Connection.Matches left) (connection left) (connection right) := by
  refine agree_fieldsOf_bind (fun one other isObject known => ?_) alike
  subst isObject
  refine (agree_integer "connection" (known "fromId" (by decide))).bind fun _ _ sameFrom => ?_
  refine (agree_integer "connection" (known "toId" (by decide))).bind fun _ _ sameTo => ?_
  refine agree_required_bind (fun color otherColor isColor rearranged => ?_)
    (known "color" (by decide))
  refine (agree_number "connection" (known "thickness" (by decide))).bind
    fun _ _ sameThickness => ?_
  subst sameFrom sameTo sameThickness
  refine ⟨rfl, fun oneText => ?_⟩
  exact congrArg Json.plainText (rearranged.eq_of_hasOneOrder (oneText color isColor))

theorem agree_face
    (left right : Json)
    (alike : AlikeObjects (AlikeOn faceKeys) left right) :
    Agree (Face.Matches left) (face left) (face right) := by
  refine agree_fieldsOf_bind (fun one other isObject known => ?_) alike
  subst isObject
  refine agree_required_bind (fun ids otherIds _ rearranged => ?_) (known "pointIds" (by decide))
  rw [integers?_of_rearranged rearranged]
  cases integers? otherIds with
  | none =>
      exact trivial
  | some pointIds =>
      refine ⟨rfl, fun oneText => ?_⟩
      exact textOr_of_present?_eq ((known "color" (by decide)).eq_of_hasOneOrder oneText) _

/-- A name that the record gives is taken whatever the default is. -/
theorem textOr_of_given
    {key : String}
    {fields : Fields}
    (given : GivesText (.object fields) key)
    (default other : String) :
    textOr default key fields = textOr other key fields := by
  obtain ⟨value, isValue, truthy⟩ := given
  replace isValue : Json.present? key fields = some value := isValue
  simp only [textOr_eq, isValue, truthy, if_true]

/-- Rearranged clips are read alike, but for texts that show their keys. -/
theorem agree_clip
    (left right : Json)
    (alike : AlikeObjects (AlikeOn clipKeys) left right) :
    Agree (Clip.Matches left) (clip left) (clip right) := by
  refine agree_fieldsOf_bind (fun one other isObject known => ?_) alike
  subst isObject
  have position? (keys : List String) (areKnown : keys ⊆ clipKeys) :
      ∀ key ∈ keys, AlikeAt Rearranged key one other :=
    fun key isKey => known key (areKnown isKey)
  refine agree_required_bind (fun id otherId isId sameId => ?_) (known "id" (by decide))
  refine (agree_integer "clip" (known "targetId" (by decide))).bind fun _ _ sameTarget => ?_
  refine (agree_position? (position? ["sx", "sy", "sz"] (by decide))).bind
    fun _ _ sameStart => ?_
  refine (agree_position? (position? ["ex", "ey", "ez"] (by decide))).bind
    fun _ _ sameEnd => ?_
  refine (agree_number "clip" (known "startTime" (by decide))).bind fun _ _ sameStartTime => ?_
  refine (agree_number "clip" (known "endTime" (by decide))).bind fun _ _ sameEndTime => ?_
  refine (agree_number? "clip" (known "value" (by decide))).bind fun _ _ sameValue => ?_
  subst sameTarget sameStart sameEnd sameStartTime sameEndTime sameValue
  have kind (oneText : HasOneText (.object one) "type") :
      textOr "Move" "type" one = textOr "Move" "type" other :=
    textOr_of_present?_eq ((known "type" (by decide)).eq_of_hasOneOrder oneText) _
  refine ⟨rfl, Json.AlikeAt.getD (known "axis" (by decide)), fun oneText => ?_, kind,
    fun oneText decided => ?_⟩
  · exact congrArg Json.plainText (sameId.eq_of_hasOneOrder (oneText id isId))
  · refine .trans ?_
      (textOr_of_present?_eq ((known "name" (by decide)).eq_of_hasOneOrder oneText) _)
    rcases decided with given | oneKind
    · exact textOr_of_given given _ _
    · rw [kind oneKind]

/-- Lists of records are read alike if each record is. -/
theorem agree_records
    {like : Json → Json → Prop}
    {related : Json → α → α → Prop}
    {record : Json → Except SnapshotError α}
    (each : ∀ left right, like left right → Agree (related left) (record left) (record right))
    (left right : Json)
    (alike : AlikeLists like left right) :
    Agree (RecordsMatch related left) (records record left) (records record right) := by
  cases left with
  | array items =>
      cases right with
      | array others =>
          exact Agree.mapM each alike
      | _ =>
          exact alike.elim
  | _ =>
      cases right with
      | array others =>
          exact alike.elim
      | _ =>
          exact trivial

/-- Collections are read alike up to their order. -/
theorem agree_collections
    (left right : Json)
    (rearranged : Rearranged left right) :
    Agree List.Perm (collections left) (collections right) := by
  cases rearranged with
  | same =>
      exact .of_eq (fun _ => .refl _) rfl
  | array =>
      exact trivial
  | @object left middle right distinct reordered sameKeys values =>
      have fields := Json.rearrangedFields sameKeys values
      change Agree List.Perm (left.mapM _) (right.mapM _)
      refine (Agree.mapM_of_perm _ reordered).trans ?_ fun _ _ _ => List.Perm.trans
      refine .of_eq .refl (mapM_congr (fields.imp fun old new ⟨sameName, rearranged⟩ => ?_))
      simp only [sameName, integers?_of_rearranged rearranged]

theorem agree_time
    (left right : Json)
    (rearranged : Rearranged left right) :
    Agree Eq (time left) (time right) :=
  agree_scalar (fun _ => not_succeeds_error _) (fun _ => not_succeeds_error _) rearranged

theorem agree_flag
    (left right : Json)
    (rearranged : Rearranged left right) :
    Agree Eq (flag left) (flag right) :=
  agree_scalar (fun _ => not_succeeds_error _) (fun _ => not_succeeds_error _) rearranged

/-- Whatever a world keeps where a snapshot has no value, it comes to hold what matches. -/
theorem agree_carried?
    {like : Json → Json → Prop}
    {related : Json → α → α → Prop}
    {parse : Json → Except SnapshotError α}
    (each : ∀ left right, like left right → Agree (related left) (parse left) (parse right))
    {key : String}
    {left right : Fields}
    (alike : AlikeAt like key left right) :
    Agree
      (fun one? other? =>
        ∀ kept, FieldMatches related (Json.present? key left) (one?.getD kept) (other?.getD kept))
      (carried? key parse left) (carried? key parse right) := by
  unfold carried?
  obtain ⟨noOld, noNew⟩ | ⟨old, new, isOld, isNew, values⟩ := alike.cases
  · rw [noOld, noNew]
    exact fun _ => rfl
  · rw [isOld, isNew]
    have parsed := each old new values
    simp only
    generalize parse old = oldParsed at parsed
    generalize parse new = newParsed at parsed
    cases oldParsed with
    | error failure =>
        cases newParsed with
        | error other =>
            exact trivial
        | ok value =>
            exact parsed.elim
    | ok value =>
        cases newParsed with
        | error failure =>
            exact parsed.elim
        | ok other =>
            exact fun _ => parsed

/-- What does not depend on the value is related with it and without it. -/
theorem FieldMatches.weaken
    {related : α → α → Prop}
    (reflexive : ∀ value, related value value)
    {source? : Option Json}
    {left right : α}
    (matched : FieldMatches (fun _ => related) source? left right) :
    related left right := by
  cases source? with
  | none =>
      exact matched ▸ reflexive left
  | some source =>
      exact matched

/-- Payloads that are alike are both read or both refused, and matching worlds come of them. -/
theorem agree_merge
    {left right : Json}
    (alike : AlikeObjects Alike left right)
    (world : World) :
    Agree (World.Matches left) (world.merge left) (world.merge right) := by
  refine agree_fieldsOf_bind (fun one other isObject known => ?_) alike
  subst isObject
  refine (agree_carried? (agree_records agree_point) known.points).bind fun _ _ points => ?_
  refine (agree_carried? (agree_records agree_connection) known.connections).bind
    fun _ _ connections => ?_
  refine (agree_carried? (agree_records agree_face) known.faces).bind fun _ _ faces => ?_
  refine (agree_carried? agree_collections known.collections).bind fun _ _ collections => ?_
  refine (agree_carried? agree_time known.time).bind fun _ _ time => ?_
  refine (agree_carried? agree_flag known.flag).bind fun _ _ flag => ?_
  refine (agree_carried? (agree_records agree_clip) known.clips).bind fun _ _ clips => ?_
  exact {
    points := points world.points
    connections := connections world.connections
    faces := faces world.faces
    collections := (collections []).weaken .refl
    time := (time world.currentTime).weaken fun _ => rfl
    flag := (flag world.isPlaying).weaken fun _ => rfl
    clips := clips []
  }

/-!
## Rearranged snapshots are alike
-/

theorem alikeOn_of_rearranged
    {keys : List String}
    (left right : Json)
    (rearranged : Rearranged left right) :
    AlikeObjects (AlikeOn keys) left right :=
  alikeObjects_of_rearranged (fun _ _ rearranged key _ => rearranged.alikeAt key) rearranged

/-- A payload and its rearrangements are alike. -/
theorem alike_of_rearranged
    {left right : Json}
    (rearranged : Rearranged left right) :
    AlikeObjects Alike left right := by
  refine alikeObjects_of_rearranged (fun fields others rearranged => ?_) rearranged
  have records (key : String) (keys : List String) :
      AlikeAt (AlikeLists (AlikeObjects (AlikeOn keys))) key fields others := by
    unfold AlikeAt
    obtain ⟨noOld, noNew⟩ | ⟨old, new, isOld, isNew, value⟩ := (rearranged.alikeAt key).cases
    · rw [noOld, noNew]
      exact .none
    · rw [isOld, isNew]
      exact .some (alikeLists_of_rearranged alikeOn_of_rearranged value)
  exact {
    points := records "points" pointKeys
    connections := records "connections" connectionKeys
    faces := records "faces" faceKeys
    collections := rearranged.alikeAt "collections"
    time := rearranged.alikeAt "currentTime"
    flag := rearranged.alikeAt "isPlaying"
    clips := records "clips" clipKeys
  }

/-- A snapshot carries exactly the fields that the payload has and that are not null. -/
structure Carries
    (snapshot : Snapshot)
    (fields : Fields) :
    Prop where
  points : snapshot.points?.isSome = (Json.present? "points" fields).isSome
  connections : snapshot.connections?.isSome = (Json.present? "connections" fields).isSome
  faces : snapshot.faces?.isSome = (Json.present? "faces" fields).isSome
  collections : snapshot.collections?.isSome = (Json.present? "collections" fields).isSome
  time : snapshot.time?.isSome = (Json.present? "currentTime" fields).isSome
  flag : snapshot.flag?.isSome = (Json.present? "isPlaying" fields).isSome
  clips : snapshot.clips?.isSome = (Json.present? "clips" fields).isSome

/-- A field is carried exactly if its key is present. -/
theorem isSome_of_carried?
    {key : String}
    {parse : Json → Except SnapshotError α}
    {fields : Fields}
    {read? : Option α}
    (carried : carried? key parse fields = .ok read?) :
    read?.isSome = (Json.present? key fields).isSome := by
  cases read? with
  | none =>
      rw [carried?_eq_ok_none_iff.mp carried]
      rfl
  | some parsed =>
      obtain ⟨value, there, -⟩ := carried?_eq_ok_some_iff.mp carried
      rw [there]
      rfl

/-- A snapshot carries what its payload does. -/
theorem carries_of_ofPayload
    {fields : Fields}
    {snapshot : Snapshot}
    (read : ofPayload (.object fields) = .ok snapshot) :
    snapshot.Carries fields := by
  obtain ⟨held, isObject, points, connections, faces, collections, time, flag, clips⟩ :=
    ofPayload_eq_ok_iff.mp read
  cases isObject
  exact {
    points := isSome_of_carried? points
    connections := isSome_of_carried? connections
    faces := isSome_of_carried? faces
    collections := isSome_of_carried? collections
    time := isSome_of_carried? time
    flag := isSome_of_carried? flag
    clips := isSome_of_carried? clips
  }

end Snapshot

/--
A snapshot is accepted in every world or in none, exactly if it has the schema.  What it carries is
read without the world, and replaces what the world has; the rest is kept, apart from collections
and clips, which become empty.  The order of keys, at any depth, decides neither acceptance nor what
is read, apart from each single text of a record whose own value there is or holds an object of
several keys; and keys that are not known decide nothing.
-/
theorem World.merge_readsSchema
    (payload : Json) :
    (∀ world : World,
      (∃ later, world.merge payload = .ok later) ↔ payload.IsObjectOf IsSnapshot) ∧
    (payload.IsObjectOf IsSnapshot →
      ∃ fields snapshot, payload = .object fields ∧ snapshot.Carries fields ∧
        ∀ world : World, world.merge payload = .ok (world.update snapshot)) ∧
    (∀ other, payload.Rearranged other → ∀ world : World,
      Agree (World.Matches payload) (world.merge payload) (world.merge other)) ∧
    (∀ other, AlikeObjects Alike payload other → ∀ world : World,
      Agree (World.Matches payload) (world.merge payload) (world.merge other)) := by
  have accepted (world : World) :
      (∃ later, world.merge payload = .ok later) ↔ payload.IsObjectOf IsSnapshot := by
    rw [← succeeds_ofPayload, World.merge_eq]
    exact succeeds_map (ofPayload payload) world.update
  refine ⟨accepted, fun isSnapshot => ?_, fun other rearranged world => ?_,
    fun other alike world => agree_merge alike world⟩
  · obtain ⟨snapshot, read⟩ := (succeeds_ofPayload payload).mpr isSnapshot
    obtain ⟨fields, rfl, -⟩ := ofPayload_eq_ok_iff.mp read
    refine ⟨fields, snapshot, rfl, carries_of_ofPayload read, fun world => ?_⟩
    rw [World.merge_eq, read]
    rfl
  · exact agree_merge (alike_of_rearranged rearranged) world

/-- A snapshot of connections, one for each of the colors. -/
def Snapshot.ofColors (colors : List Json) : Json :=
  .object [("connections", .array (colors.map fun color =>
    .object [("fromId", .number 1), ("toId", .number 2), ("color", color),
      ("thickness", .number (.real 0))]))]

/-- A color that is an object of two keys, in a given order. -/
def Snapshot.colorOf (first second : String) : Json :=
  .object [(first, .null), (second, .null)]

theorem Snapshot.colorOf_rearranged :
    Rearranged (colorOf "a" "b") (colorOf "b" "a") :=
  .object (by decide) (.swap _ _ _) rfl (.cons (.same _) (.cons (.same _) .nil))

/-- Where colors are rearranged, so is the snapshot. -/
theorem Snapshot.ofColors_rearranged
    {left right : List Json}
    (colors : List.Forall₂ Rearranged left right) :
    (ofColors left).Rearranged (ofColors right) := by
  have records :
      List.Forall₂ Rearranged
        (left.map fun color =>
          .object [("fromId", .number 1), ("toId", .number 2), ("color", color),
            ("thickness", .number (.real 0))])
        (right.map fun color =>
          .object [("fromId", .number 1), ("toId", .number 2), ("color", color),
            ("thickness", .number (.real 0))]) := by
    rw [List.forall₂_map_left_iff, List.forall₂_map_right_iff]
    refine colors.imp fun one other color => ?_
    refine .object (by simp) (.refl _) rfl (.cons (.same _) (.cons (.same _) (.cons color ?_)))
    exact .cons (.same _) .nil
  exact .object (by simp) (.refl _) rfl (.cons (.array records) .nil)

theorem Snapshot.ofColors_isSnapshot
    {colors : List Json}
    (present : ∀ color ∈ colors, color ≠ .null) :
    (ofColors colors).IsObjectOf IsSnapshot where
  points := nofun
  connections := by
    rintro records there
    obtain rfl := Option.some.inj there
    refine List.forall_mem_map.mpr fun color isColor => ?_
    have shown (fields : Fields) :
        (Json.present? "color" (("fromId", .number 1) :: ("toId", .number 2)
          :: ("color", color) :: fields)).isSome := by
      cases color with
      | null =>
          exact absurd rfl (present _ isColor)
      | _ =>
          rfl
    exact ⟨⟨_, rfl, .int 1⟩, ⟨_, rfl, .int 2⟩, shown _, ⟨_, rfl, .real 0⟩⟩
  faces := nofun
  collections := nofun
  time := nofun
  flag := nofun
  clips := nofun

/-- Connections that match are equal where the color has one text. -/
theorem Connection.Matches.eq_of_hasOneText
    {record : Json}
    {left right : Connection}
    (matched : Connection.Matches record left right)
    (oneText : HasOneText record "color") :
    left = right := by
  rw [← matched.rest, ← matched.color oneText]

/-- The color of one connection has its keys in another order, and the next connection is read as the
same. -/
theorem World.merge_readsSchema_besideObject :
    let payload := ofColors [colorOf "a" "b", .string "red"]
    let other := ofColors [colorOf "b" "a", .string "red"]
    ∃ left right,
      ({} : World).merge payload = .ok left ∧
        ({} : World).merge other = .ok right ∧
          left.connections[1]? = right.connections[1]? := by
  intro payload other
  obtain ⟨accepted, -, rearranged, -⟩ := World.merge_readsSchema payload
  obtain ⟨left, isLeft⟩ := (accepted {}).mpr (ofColors_isSnapshot (by simp [colorOf]))
  have agree := rearranged other
    (ofColors_rearranged (.cons colorOf_rearranged (.cons (.same _) .nil))) {}
  rw [isLeft] at agree
  cases isRight : ({} : World).merge other with
  | error failure =>
      rw [isRight] at agree
      exact agree.elim
  | ok right =>
      rw [isRight] at agree
      refine ⟨left, right, isLeft, rfl, ?_⟩
      have records :
          RecordsMatch Connection.Matches
            ((payload.member? "connections").getD .null) left.connections right.connections :=
        agree.connections
      generalize left.connections = ones at records
      generalize right.connections = others at records
      cases records with
      | cons first records =>
          cases records with
          | cons second records =>
              refine congrArg some (second.eq_of_hasOneText fun value there => ?_)
              obtain rfl := Option.some.inj there
              exact .scalar nofun nofun

/-- A color that is an object is shown with its keys in their order. -/
theorem World.merge_showsKeyOrder :
    (ofColors [colorOf "a" "b"]).Rearranged (ofColors [colorOf "b" "a"]) ∧
    (({} : World).merge (ofColors [colorOf "a" "b"])).map
        (fun world => world.connections.map Connection.color) =
      .ok ["\x7b'a': None, 'b': None\x7d"] ∧
    (({} : World).merge (ofColors [colorOf "b" "a"])).map
        (fun world => world.connections.map Connection.color) =
      .ok ["\x7b'b': None, 'a': None\x7d"] :=
  ⟨ofColors_rearranged (.cons colorOf_rearranged .nil), by decide, by decide⟩

end SceneEditor
