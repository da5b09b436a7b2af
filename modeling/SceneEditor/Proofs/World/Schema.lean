import SceneEditor.Proofs.Number.Rounding
import SceneEditor.Proofs.Outcome
import SceneEditor.Proofs.World.Snapshot

namespace SceneEditor

/-!
# The schema of a snapshot

What a snapshot has to look like, said without a parser: which keys a record needs, which it may
have, and what their values are.  Every parser is then shown to succeed on exactly the values that
its part of the schema describes, the parsers of whole records from those of their fields.
-/

/-- An integer; a truth value is none. -/
inductive Json.IsInteger : Json → Prop where
  | int (value : Int) : IsInteger (.number (.int value))

/-- A number that can be rounded: not an integer from the middle between the largest finite number
and `2 ^ 1024` on. -/
inductive Json.IsNumeric : Json → Prop where
  | real (value : Binary64) : IsNumeric (.number (.real value))
  | int {value : Int} (inRange : value.natAbs < (2 ^ 54 - 1) * 2 ^ 970) :
      IsNumeric (.number (.int value))

/-- A document that is true or false. -/
inductive Json.IsFlag : Json → Prop where
  | bool (value : Bool) : IsFlag (.bool value)

/-- A list with valid items only. -/
def Json.IsListOf
    (valid : Json → Prop) :
    Json → Prop
  | .array items => ∀ item ∈ items, valid item
  | _ => False

/-- An object with valid fields. -/
def Json.IsObjectOf
    (valid : List (String × Json) → Prop) :
    Json → Prop
  | .object fields => valid fields
  | _ => False

open Attempt

namespace Snapshot

/-- The key is there, not null, and its value is valid. -/
def Needs
    (key : String)
    (valid : Json → Prop)
    (fields : Fields) :
    Prop :=
  ∃ value, Json.present? key fields = some value ∧ valid value

/-- The key is missing, null, or its value is valid. -/
def Allows
    (key : String)
    (valid : Json → Prop)
    (fields : Fields) :
    Prop :=
  ∀ value, Json.present? key fields = some value → valid value

/-- One of the keys is missing or null, or the values of all of them are numbers. -/
def AllowsTriple
    (xKey yKey zKey : String)
    (fields : Fields) :
    Prop :=
  (∀ key ∈ [xKey, yKey, zKey], (Json.present? key fields).isSome) →
    Needs xKey Json.IsNumeric fields ∧
      Needs yKey Json.IsNumeric fields ∧
      Needs zKey Json.IsNumeric fields

/-- Fields that make a point. -/
@[mk_iff]
structure IsPoint (fields : Fields) : Prop where
  id : Needs "id" Json.IsInteger fields
  x : Needs "x" Json.IsNumeric fields
  y : Needs "y" Json.IsNumeric fields
  z : Needs "z" Json.IsNumeric fields

/-- Fields that make a connection. -/
@[mk_iff]
structure IsConnection (fields : Fields) : Prop where
  fromId : Needs "fromId" Json.IsInteger fields
  toId : Needs "toId" Json.IsInteger fields
  color : (Json.present? "color" fields).isSome
  thickness : Needs "thickness" Json.IsNumeric fields

/-- Fields that make a face. -/
@[mk_iff]
structure IsFace (fields : Fields) : Prop where
  pointIds : Needs "pointIds" (Json.IsListOf Json.IsInteger) fields

/-- Fields that make a clip. -/
@[mk_iff]
structure IsClip (fields : Fields) : Prop where
  id : (Json.present? "id" fields).isSome
  targetId : Needs "targetId" Json.IsInteger fields
  startTime : Needs "startTime" Json.IsNumeric fields
  endTime : Needs "endTime" Json.IsNumeric fields
  value : Allows "value" Json.IsNumeric fields
  startPosition : AllowsTriple "sx" "sy" "sz" fields
  endPosition : AllowsTriple "ex" "ey" "ez" fields

/-- Every value of the object is a list of integers. -/
def AreCollections (fields : Fields) : Prop :=
  ∀ field ∈ fields, Json.IsListOf Json.IsInteger field.2

/-- Fields that make a snapshot: each of the known ones is absent, null or valid. -/
@[mk_iff]
structure IsSnapshot (fields : Fields) : Prop where
  points : Allows "points" (Json.IsListOf (Json.IsObjectOf IsPoint)) fields
  connections : Allows "connections" (Json.IsListOf (Json.IsObjectOf IsConnection)) fields
  faces : Allows "faces" (Json.IsListOf (Json.IsObjectOf IsFace)) fields
  collections : Allows "collections" (Json.IsObjectOf AreCollections) fields
  time : Allows "currentTime" Json.IsNumeric fields
  flag : Allows "isPlaying" Json.IsFlag fields
  clips : Allows "clips" (Json.IsListOf (Json.IsObjectOf IsClip)) fields

/-- A record is read exactly from an object with valid fields. -/
theorem succeeds_fieldsOf_bind
    {what : String}
    {next : Fields → Except SnapshotError α}
    {valid : Fields → Prop}
    (ofNext : ∀ fields, Succeeds (next fields) ↔ valid fields)
    (value : Json) :
    Succeeds (fieldsOf what value >>= next) ↔ Json.IsObjectOf valid value := by
  cases value with
  | object fields =>
      exact ofNext fields
  | _ =>
      exact iff_of_false (not_succeeds_error _) id

/-- A required key is read exactly if it is present. -/
theorem succeeds_required
    (record key : String)
    (fields : Fields) :
    Succeeds (required record key fields) ↔ (Json.present? key fields).isSome := by
  unfold required
  cases Json.present? key fields with
  | none =>
      exact iff_of_false (not_succeeds_error _) Bool.false_ne_true
  | some value =>
      exact iff_of_true (succeeds_ok value) rfl

/-- A field that has to be there and to be read succeeds exactly if it is there and valid. -/
theorem succeeds_required_bind
    {record key : String}
    {next : Json → Except SnapshotError α}
    {valid : Json → Prop}
    (ofNext : ∀ value, Succeeds (next value) ↔ valid value)
    (fields : Fields) :
    Succeeds (required record key fields >>= next) ↔ Needs key valid fields := by
  unfold required Needs
  cases Json.present? key fields with
  | none =>
      exact iff_of_false (not_succeeds_error _) (by simp)
  | some value =>
      simpa [ok_bind] using ofNext value

/-- A number can be rounded exactly if it is one of those the schema calls numeric. -/
theorem succeeds_toReal (number : Num) :
    Succeeds number.toReal ↔ Json.IsNumeric (.number number) := by
  cases number with
  | real value =>
      exact iff_of_true (succeeds_ok value) (.real value)
  | int value =>
      rw [Num.succeeds_int_iff]
      exact ⟨.int, fun | .int inRange => inRange⟩

/-- A number is read exactly if its key is present and numeric. -/
theorem succeeds_number
    (record key : String)
    (fields : Fields) :
    Succeeds (number record key fields) ↔ Needs key Json.IsNumeric fields := by
  refine succeeds_required_bind (fun value => ?_) fields
  cases value with
  | number value =>
      rw [← succeeds_toReal]
      cases rounded : value.toReal with
      | error failure =>
          simp only [rounded]
          exact iff_of_false (not_succeeds_error _) (not_succeeds_error _)
      | ok real =>
          simp only [rounded]
          exact iff_of_true (succeeds_ok real) (succeeds_ok real)
  | _ =>
      exact iff_of_false (not_succeeds_error _) nofun

theorem succeeds_integer
    (record key : String)
    (fields : Fields) :
    Succeeds (integer record key fields) ↔ Needs key Json.IsInteger fields := by
  refine succeeds_required_bind (fun value => ?_) fields
  rcases value with _ | _ | ⟨value | _⟩ | _ | _ | _
  case number.int =>
    exact iff_of_true (succeeds_ok value) (.int value)
  all_goals
    exact iff_of_false (not_succeeds_error _) nofun

theorem succeeds_number?
    (record key : String)
    (fields : Fields) :
    Succeeds (number? record key fields) ↔ Allows key Json.IsNumeric fields := by
  have ofNumber := succeeds_number record key fields
  unfold Needs at ofNumber
  unfold number? Allows
  cases there : Json.present? key fields with
  | none =>
      exact iff_of_true (succeeds_ok none) nofun
  | some value =>
      rw [succeeds_map, ofNumber, there]
      simp

/-- Three fields are read exactly if one of them is not there or all of them are numbers. -/
theorem succeeds_position?
    (xKey yKey zKey : String)
    (fields : Fields) :
    Succeeds (position? xKey yKey zKey fields) ↔ AllowsTriple xKey yKey zKey fields := by
  unfold position? AllowsTriple
  rw [← List.all_eq_true]
  split
  · next allThere =>
    rw [forall_prop_of_true allThere]
    refine succeeds_bind (succeeds_number ..) fun x => ?_
    refine succeeds_bind (succeeds_number ..) fun y => ?_
    rw [bind_pure_comp, succeeds_map]
    exact succeeds_number ..
  · next oneMissing =>
    exact iff_of_true (succeeds_ok none) fun allThere => absurd allThere oneMissing

theorem isSome_integers? (value : Json) :
    (integers? value).isSome ↔ Json.IsListOf Json.IsInteger value := by
  cases value with
  | array items =>
      refine (isSome_mapM _ items).trans (forall₂_congr fun item _ => ?_)
      rcases item with _ | _ | ⟨item | _⟩ | _ | _ | _
      case number.int =>
        exact iff_of_true rfl (.int item)
      all_goals
        exact iff_of_false Bool.false_ne_true nofun
  | _ =>
      exact iff_of_false Bool.false_ne_true id

/-- A point is read exactly from valid fields. -/
theorem succeeds_point (value : Json) :
    Succeeds (point value) ↔ Json.IsObjectOf IsPoint value := by
  refine succeeds_fieldsOf_bind (fun fields => ?_) value
  rw [isPoint_iff]
  refine succeeds_bind (succeeds_integer ..) fun id => ?_
  refine succeeds_bind (succeeds_number ..) fun x => ?_
  refine succeeds_bind (succeeds_number ..) fun y => ?_
  rw [bind_pure_comp, succeeds_map]
  exact succeeds_number ..

theorem succeeds_connection (value : Json) :
    Succeeds (connection value) ↔ Json.IsObjectOf IsConnection value := by
  refine succeeds_fieldsOf_bind (fun fields => ?_) value
  rw [isConnection_iff]
  refine succeeds_bind (succeeds_integer ..) fun fromId => ?_
  refine succeeds_bind (succeeds_integer ..) fun toId => ?_
  refine succeeds_bind (succeeds_required ..) fun color => ?_
  rw [bind_pure_comp, succeeds_map]
  exact succeeds_number ..

theorem succeeds_face (value : Json) :
    Succeeds (face value) ↔ Json.IsObjectOf IsFace value := by
  refine succeeds_fieldsOf_bind (fun fields => ?_) value
  rw [isFace_iff]
  refine succeeds_required_bind (fun ids => ?_) fields
  rw [← isSome_integers?]
  cases integers? ids with
  | none =>
      exact iff_of_false (not_succeeds_error _) Bool.false_ne_true
  | some pointIds =>
      exact iff_of_true (succeeds_ok _) rfl

theorem succeeds_clip (value : Json) :
    Succeeds (clip value) ↔ Json.IsObjectOf IsClip value := by
  refine succeeds_fieldsOf_bind (fun fields => ?_) value
  rw [isClip_iff]
  trans (Json.present? "id" fields).isSome ∧ Needs "targetId" Json.IsInteger fields ∧
    AllowsTriple "sx" "sy" "sz" fields ∧ AllowsTriple "ex" "ey" "ez" fields ∧
    Needs "startTime" Json.IsNumeric fields ∧ Needs "endTime" Json.IsNumeric fields ∧
    Allows "value" Json.IsNumeric fields
  · refine succeeds_bind (succeeds_required ..) fun id => ?_
    refine succeeds_bind (succeeds_integer ..) fun targetId => ?_
    refine succeeds_bind (succeeds_position? ..) fun startPosition? => ?_
    refine succeeds_bind (succeeds_position? ..) fun endPosition? => ?_
    refine succeeds_bind (succeeds_number ..) fun startTime => ?_
    refine succeeds_bind (succeeds_number ..) fun endTime => ?_
    rw [bind_pure_comp, succeeds_map]
    exact succeeds_number? ..
  · -- the parser looks at the positions before the times
    tauto

/-- Records are read exactly from a list of valid ones. -/
theorem succeeds_records
    {record : Json → Except SnapshotError α}
    {valid : Json → Prop}
    (ofRecord : ∀ value, Succeeds (record value) ↔ valid value)
    (value : Json) :
    Succeeds (records record value) ↔ Json.IsListOf valid value := by
  cases value with
  | array items =>
      exact succeeds_mapM ofRecord items
  | _ =>
      exact iff_of_false (not_succeeds_error _) id

/-- Collections are read exactly from an object of integer lists. -/
theorem succeeds_collections (value : Json) :
    Succeeds (collections value) ↔ Json.IsObjectOf AreCollections value := by
  refine succeeds_fieldsOf_bind (fun fields => ?_) value
  refine succeeds_mapM (fun field => ?_) fields
  rw [← isSome_integers?]
  cases members : integers? field.2 with
  | none =>
      simp only [members]
      exact iff_of_false (not_succeeds_error _) Bool.false_ne_true
  | some ids =>
      simp only [members]
      exact iff_of_true (succeeds_ok _) rfl

theorem succeeds_time (value : Json) :
    Succeeds (time value) ↔ Json.IsNumeric value := by
  cases value with
  | number value =>
      rw [← succeeds_toReal]
      unfold time
      cases rounded : value.toReal with
      | error failure =>
          simp only [rounded]
          exact iff_of_false (not_succeeds_error _) (not_succeeds_error _)
      | ok real =>
          simp only [rounded]
          exact iff_of_true (succeeds_ok real) (succeeds_ok real)
  | _ =>
      exact iff_of_false (not_succeeds_error _) nofun

theorem succeeds_flag (value : Json) :
    Succeeds (flag value) ↔ Json.IsFlag value := by
  cases value with
  | bool value =>
      exact iff_of_true (succeeds_ok value) (.bool value)
  | _ =>
      exact iff_of_false (not_succeeds_error _) nofun

/-- A field of a snapshot is read exactly if its key is absent or valid. -/
theorem succeeds_carried?
    {parse : Json → Except SnapshotError α}
    {valid : Json → Prop}
    (ofParse : ∀ value, Succeeds (parse value) ↔ valid value)
    (key : String)
    (fields : Fields) :
    Succeeds (carried? key parse fields) ↔ Allows key valid fields := by
  unfold carried? Allows
  cases Json.present? key fields with
  | none =>
      exact iff_of_true (succeeds_ok none) nofun
  | some value =>
      have ofValue := ofParse value
      cases read : parse value with
      | error failure =>
          rw [read] at ofValue
          simpa [read, not_succeeds_error] using ofValue
      | ok parsed =>
          rw [read] at ofValue
          simpa [read, succeeds_ok] using ofValue

/-- A payload is read exactly if it has the schema of a snapshot. -/
theorem succeeds_ofPayload (payload : Json) :
    Succeeds (ofPayload payload) ↔ Json.IsObjectOf IsSnapshot payload := by
  refine succeeds_fieldsOf_bind (fun fields => ?_) payload
  rw [isSnapshot_iff]
  refine succeeds_bind (succeeds_carried? (succeeds_records succeeds_point) ..) fun points? => ?_
  refine succeeds_bind (succeeds_carried? (succeeds_records succeeds_connection) ..)
    fun connections? => ?_
  refine succeeds_bind (succeeds_carried? (succeeds_records succeeds_face) ..) fun faces? => ?_
  refine succeeds_bind (succeeds_carried? succeeds_collections ..) fun collections? => ?_
  refine succeeds_bind (succeeds_carried? succeeds_time ..) fun time? => ?_
  refine succeeds_bind (succeeds_carried? succeeds_flag ..) fun flag? => ?_
  rw [bind_pure_comp, succeeds_map]
  exact succeeds_carried? (succeeds_records succeeds_clip) ..

end Snapshot

end SceneEditor
