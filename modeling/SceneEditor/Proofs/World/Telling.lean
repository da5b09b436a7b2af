import Mathlib.Data.List.Chain
import Mathlib.Data.List.Forall2
import SceneEditor.Proofs.World.Snapshot

namespace SceneEditor

/-!
# Changes that are told

Whoever listens to a replica is told of its connections when a message has changed them, and only then.
A message that writes the same connections in another way changes nothing.  To be the same is an
equivalence of lists, so a list that is told differs from the one that was told before it, however many
messages between the two told nothing.
-/

/-- Two connections are equal field by field; thicknesses neither of which is a number count as equal. -/
structure Connection.Same (left right : Connection) : Prop where
  fromId : left.fromId = right.fromId
  toId : left.toId = right.toId
  color : left.color = right.color
  thickness :
    left.thickness.equals right.thickness = true ∨ left.thickness = .nan ∧ right.thickness = .nan

/-- Two lists hold the same records in the same order. -/
def SameConnections (left right : List Connection) : Prop :=
  List.Forall₂ Connection.Same left right

/-- A message was accepted. -/
def Receipt.isAccepted : Receipt → Bool
  | refused _ => false
  | merged _ => true

/-- The connections that are told when a message was received, if any are. -/
def Receipt.told? : Receipt → Option (List Connection)
  | refused _ => none
  | merged changed? => changed?

/-- What a replica is given: a message, or a time to show ahead of the server. -/
inductive ReplicaInput where
  | message (message : Message)
  | time (time : Binary64)
  deriving Repr

/-!
## Lists of the same records
-/

/-- Equal thicknesses have one position, and those that are no numbers have none. -/
theorem Binary64.position?_eq_iff
    {left right : Binary64} :
    left.position? = right.position? ↔
      left.equals right = true ∨ left = .nan ∧ right = .nan := by
  cases left <;> cases right <;> simp [equals, position?]

/-- All of a connection that decides which others are the same. -/
def Connection.record (connection : Connection) : Int × Int × String × Option Int :=
  (connection.fromId, connection.toId, connection.color, connection.thickness.position?)

/-- Connections are the same exactly in their records. -/
theorem Connection.same_iff
    {left right : Connection} :
    left.Same right ↔ left.record = right.record := by
  simp only [record, Prod.mk.injEq, Binary64.position?_eq_iff]
  exact ⟨fun ⟨fromId, toId, color, thickness⟩ => ⟨fromId, toId, color, thickness⟩,
    fun ⟨fromId, toId, color, thickness⟩ => ⟨fromId, toId, color, thickness⟩⟩

namespace SameConnections

theorem iff_records
    {left right : List Connection} :
    SameConnections left right ↔ left.map Connection.record = right.map Connection.record := by
  rw [← List.forall₂_eq_eq_eq, List.forall₂_map_left_iff, List.forall₂_map_right_iff]
  exact ⟨List.Forall₂.imp fun _ _ => Connection.same_iff.mp,
    List.Forall₂.imp fun _ _ => Connection.same_iff.mpr⟩

theorem refl (connections : List Connection) :
    SameConnections connections connections :=
  iff_records.mpr rfl

theorem symm
    {left right : List Connection}
    (same : SameConnections left right) :
    SameConnections right left :=
  iff_records.mpr (iff_records.mp same).symm

theorem trans
    {left middle right : List Connection}
    (first : SameConnections left middle)
    (second : SameConnections middle right) :
    SameConnections left right :=
  iff_records.mpr ((iff_records.mp first).trans (iff_records.mp second))

end SameConnections

/-- The comparison that decides whether connections are told. -/
theorem connectionsAgree_iff
    {left right : List Connection} :
    connectionsAgree left right = true ↔ SameConnections left right := by
  induction left generalizing right with
  | nil =>
      cases right <;> simp [connectionsAgree, SameConnections]
  | cons first rest inductionHypothesis =>
      cases right with
      | nil =>
          simp [connectionsAgree, SameConnections]
      | cons otherFirst otherRest =>
          have firstSame : first.agrees otherFirst = true ↔ first.Same otherFirst := by
            simp [Connection.agrees, Connection.same_iff, Connection.record, Binary64.agrees,
              and_assoc]
          rw [connectionsAgree, Bool.and_eq_true, firstSame, inductionHypothesis]
          exact List.forall₂_cons.symm

/-- A snapshot that was put into a world changes nothing when it is put there again. -/
theorem World.update_update
    (world : World)
    (snapshot : Snapshot) :
    (world.update snapshot).update snapshot = world.update snapshot := by
  have settled {α : Type} (field? : Option α) (old : α) :
      field?.getD (field?.getD old) = field?.getD old := by
    cases field? <;> rfl
  simp only [World.update, settled]

namespace Replica

/-- The replica after an input. -/
def after (replica : Replica) : ReplicaInput → Replica
  | .message message => (replica.receive message).1
  | .time time => replica.showTime time

/-- The connections that are told because of an input, if any are. -/
def told? (replica : Replica) : ReplicaInput → Option (List Connection)
  | .message message => (replica.receive message).2.told?
  | .time _ => none

/-- Take one input after another. -/
def run (replica : Replica) (inputs : List ReplicaInput) : Replica :=
  inputs.foldl after replica

/-- All that is told in a run, in its order. -/
def told (replica : Replica) : List ReplicaInput → List (List Connection)
  | [] => []
  | input :: rest => (replica.told? input).toList ++ (replica.after input).told rest

/-- How a message is told of. -/
structure TellsChange (replica : Replica) (message : Message) : Prop where
  told_iff :
    ∀ connections, (replica.receive message).2.told? = some connections ↔
      (replica.receive message).2.isAccepted = true ∧
        connections = (replica.receive message).1.world.connections ∧
        ¬ SameConnections connections replica.world.connections
  untold :
    (replica.receive message).2.told? = none →
      SameConnections (replica.receive message).1.world.connections replica.world.connections
  again :
    (replica.receive message).2.isAccepted = true →
      (replica.receive message).1.receive message = ((replica.receive message).1, .merged none)

/-- A message is told of exactly as it should be. -/
theorem tellsChange
    (replica : Replica)
    (message : Message) :
    replica.TellsChange message := by
  cases held : message.snapshot? with
  | none =>
      obtain ⟨reason, received⟩ := replica.receive_dropped held
      constructor
      · simp [received, refuse, Receipt.told?, Receipt.isAccepted]
      · intro _
        rw [received]
        exact SameConnections.refl _
      · simp [received, refuse, Receipt.isAccepted]
  | some snapshot =>
      constructor
      · intro connections
        rw [replica.receive_accepted held]
        simp only [Receipt.told?, Receipt.isAccepted, true_and]
        split
        · next agree =>
          have same := connectionsAgree_iff.mp agree
          simp only [reduceCtorEq, false_iff, not_and, not_not]
          rintro rfl
          exact same
        · next differ =>
          rw [connectionsAgree_iff] at differ
          constructor
          · intro told
            obtain rfl := Option.some.inj told
            exact ⟨rfl, differ⟩
          · rintro ⟨rfl, -⟩
            rfl
      · rw [replica.receive_accepted held]
        simp only [Receipt.told?, ← connectionsAgree_iff]
        intro untold
        by_contra differ
        simp [differ] at untold
      · intro _
        rw [replica.receive_accepted held]
        dsimp only
        rw [receive_accepted _ held]
        simp only [World.update_update, connectionsAgree_iff.mpr (SameConnections.refl _), if_true]

/-!
## Runs of a replica
-/

/-- What is told of more inputs comes behind what was told before. -/
theorem told_append
    (replica : Replica)
    (inputs more : List ReplicaInput) :
    replica.told (inputs ++ more) = replica.told inputs ++ (replica.run inputs).told more := by
  induction inputs generalizing replica with
  | nil =>
      rfl
  | cons input rest inductionHypothesis =>
      rw [List.cons_append, told, told, inductionHypothesis, List.append_assoc]
      rfl

/-- What one input tells: the connections that it leaves, if they differ from those it found. -/
theorem told?_cases
    (replica : Replica)
    (input : ReplicaInput) :
    (replica.told? input = none ∧
        SameConnections (replica.after input).world.connections replica.world.connections) ∨
      (replica.told? input = some (replica.after input).world.connections ∧
        ¬ SameConnections replica.world.connections (replica.after input).world.connections) := by
  cases input with
  | time time =>
      exact Or.inl ⟨rfl, SameConnections.refl _⟩
  | message message =>
      have tells := replica.tellsChange message
      rw [told?, after]
      cases told : (replica.receive message).2.told? with
      | none =>
          exact Or.inl ⟨rfl, tells.untold told⟩
      | some connections =>
          obtain ⟨-, rfl, differ⟩ := (tells.told_iff connections).mp told
          exact Or.inr ⟨rfl, fun same => differ same.symm⟩

/-- Each list that is told differs from the one before, and the first from the connections there were. -/
theorem told_isChain
    (start : Replica)
    (inputs : List ReplicaInput) :
    (start.world.connections :: start.told inputs).IsChain fun earlier later =>
      ¬ SameConnections earlier later := by
  induction inputs generalizing start with
  | nil =>
      exact List.IsChain.singleton _
  | cons input rest inductionHypothesis =>
      have later := inductionHypothesis (start.after input)
      rw [told]
      rcases start.told?_cases input with ⟨told, same⟩ | ⟨told, differ⟩
      · rw [told, Option.toList_none, List.nil_append]
        exact later.imp_head fun differ stillSame => differ (same.trans stillSame)
      · rw [told, Option.toList_some, List.singleton_append]
        exact List.isChain_cons_cons.mpr ⟨differ, later⟩

/-- The connections are those that were told last, or those there were if none were told. -/
theorem run_connections
    (start : Replica)
    (inputs : List ReplicaInput) :
    SameConnections (start.run inputs).world.connections
      ((start.told inputs).getLastD start.world.connections) := by
  induction inputs generalizing start with
  | nil =>
      exact SameConnections.refl _
  | cons input rest inductionHypothesis =>
      have later := inductionHypothesis (start.after input)
      rw [told]
      rcases start.told?_cases input with ⟨told, same⟩ | ⟨told, -⟩
      · rw [told, Option.toList_none, List.nil_append]
        cases lists : (start.after input).told rest with
        | nil =>
            rw [lists] at later
            exact later.trans same
        | cons first others =>
            rw [lists] at later
            exact later
      · rw [told, Option.toList_some, List.singleton_append, List.getLastD_cons]
        exact later

/--
Whatever a replica was given, a message is told of exactly if it is accepted and its connections differ
from those before it, and then the new ones are told.  The same message once more is accepted, tells
nothing and changes nothing.  What a run tells is what its inputs tell one by one: no list is told twice in
a row, and the connections are those that were told last.
-/
theorem run_tellsChanges
    (start : Replica)
    (inputs : List ReplicaInput) :
    let replica := start.run inputs
    (∀ message, replica.TellsChange message) ∧
      (∀ input,
        start.told (inputs ++ [input]) = start.told inputs ++ (replica.told? input).toList) ∧
      ((start.world.connections :: start.told inputs).IsChain fun earlier later =>
        ¬ SameConnections earlier later) ∧
      SameConnections replica.world.connections
        ((start.told inputs).getLastD start.world.connections) := by
  refine ⟨tellsChange _, ?_, start.told_isChain inputs, start.run_connections inputs⟩
  intro input
  rw [told_append, told, told, List.append_nil]

/-- A message that holds one connection of a thickness. -/
def thicknessMessage (thickness : String) : ReplicaInput :=
  .message (.text ("\x7b\"connections\": [\x7b\"fromId\": 1, \"toId\": 2, \"color\": \"red\", " ++
    "\"thickness\": " ++ thickness ++ "\x7d]\x7d"))

/-- The two zeros are one thickness, and a value that is no number is the same as itself. -/
theorem run_tellsChanges_zeros :
    let wire (thickness : Binary64) : Connection :=
      { fromId := 1, toId := 2, color := "red", thickness }
    let inputs :=
      [
        thicknessMessage "NaN", thicknessMessage "NaN", .time 5, .message (.text "[]"),
        thicknessMessage "0.0", .message (.text "\x7b\x7d"), thicknessMessage "-0.0"
      ]
    let start : Replica := {}
    start.told inputs = [[wire .nan], [wire 0]] ∧
      (start.run inputs).world.connections = [wire (Binary64.neg 0)] ∧
      SameConnections [wire (Binary64.neg 0)] [wire 0] := by
  intro wire inputs start
  have told : start.told inputs = [[wire .nan], [wire 0]] := by
    decide +kernel
  have connections : (start.run inputs).world.connections = [wire (Binary64.neg 0)] := by
    decide +kernel
  obtain ⟨-, -, -, current⟩ := run_tellsChanges start inputs
  rw [told, connections] at current
  exact ⟨told, connections, current⟩

end Replica

end SceneEditor
