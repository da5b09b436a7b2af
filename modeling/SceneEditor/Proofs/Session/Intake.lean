import SceneEditor.Json.Summary
import SceneEditor.Proofs.Attempt
import SceneEditor.Proofs.Json.Tellable
import SceneEditor.Proofs.Session.Run

namespace SceneEditor

/-!
# Taking in a message step by step

A session receives a message at once.  Here the same is done one step after another: the message
is read and merged, the new world is put in the place of the old one, a note tells what arrived, and
then the catalog is told of the connections if they changed.  Each step may fail, and a failure
undoes nothing of what was done before it.

A message is taken in as a whole or not at all because all that can fail comes before the first
change: the notes come after it, but they only write down numbers that were read.
-/

/-- Why a step failed. -/
inductive StepFailure where
  | unreadable (error : Json.ReadError)
  | malformed (error : SnapshotError)
  | number (error : NumberError)
  deriving DecidableEq, Repr

/-- The failures that make a message a dropped one; any other one goes on to the caller. -/
def StepFailure.isCaught : StepFailure → Bool
  | unreadable _ | malformed _ => true
  | number (.notReal _) | number (.notInteger _) => false
  | number error => !error.isOverflow

/-- The session, and the lists of connections that were delivered to the catalog so far. -/
structure Intake where
  session : Session
  delivered : List (List Connection) := []
  deriving Repr

namespace Intake

open Attempt

/-- Steps that change the intake one after another, up to the first that fails. -/
abbrev Step := EStateM StepFailure Intake

/-- The document of a message. -/
def read (message : Message) : Step Json :=
  match message.json with
  | .ok payload => return payload
  | .error error => throw (.unreadable error)

/-- The world with a payload merged into it. -/
def merge (payload : Json) : Step World := do
  match (← get).session.world.merge payload with
  | .ok world => return world
  | .error error => throw (.malformed error)

/-- Put a world in the place of the old one. -/
def assign (world : World) : Step Unit :=
  modify fun intake =>
    { intake with
      session := { intake.session with replica := { intake.session.replica with world } } }

/-- Write a note that shows a value; an integer must not have too many digits. -/
def write : Json → Step Unit
  | .number (.int value) =>
      if 10 ^ NumberError.digitLimit ≤ value.natAbs then
        throw (.number (.tooManyDigits (Nat.toDigits 10 value.natAbs).length))
      else return ()
  | _ => return ()

/-- Write a note that shows the fields of a payload. -/
def writeFields : Json → Step Unit
  | .object fields => forM (fields.map fun (_, value) => value.counted) write
  | _ => return ()

/-- Add the material of a connection and write a note about it, unless its key is there. -/
def supply (connection : Connection) : Step Unit := do
  let session := (← get).session
  if (session.catalog.findKey? connection.key).isNone then
    let (catalog, material) :=
      session.catalog.push connection.color (.real connection.thickness)
    modify fun intake => { intake with session := { intake.session with catalog } }
    write (.number material.thickness)

/-- Hand the connections to the catalog, which is supplied with each of them. -/
def deliver (connections : List Connection) : Step Unit := do
  modify fun intake => { intake with delivered := intake.delivered ++ [connections] }
  forM connections supply

/-- Merge a payload, and tell of it. -/
def apply (payload : Json) : Step Unit := do
  let previous := (← get).session.world
  let merged ← merge payload
  assign merged
  writeFields payload
  if connectionsAgree merged.connections previous.connections then return ()
  else deliver merged.connections

/-- Take in a message; a failure on the way makes it a dropped one, or goes on to the caller. -/
def takeIn (message : Message) : Step Bool := do
  try
    apply (← read message)
    pure true
  catch failure =>
    if failure.isCaught then
      modify fun intake => { intake with session := intake.session.drop }
      pure false
    else throw failure

/-!
## What each step does
-/

/-- Quiet steps over a list leave the intake as it is. -/
theorem forM_run
    {step : α → Step Unit}
    {values : List α}
    {intake : Intake}
    (quiet : ∀ value ∈ values, (step value).run intake = .ok () intake) :
    (forM values step).run intake = .ok () intake := by
  induction values with
  | nil =>
      rfl
  | cons value rest inductionHypothesis =>
      rw [List.forM_cons, run_bind_ok (quiet value List.mem_cons_self)]
      exact inductionHypothesis fun other member => quiet other (List.mem_cons_of_mem value member)

/-- A value that can be told can be written. -/
theorem write_run
    {value : Json}
    (tellable : value.IsTellable)
    (intake : Intake) :
    (write value).run intake = .ok () intake := by
  cases tellable with
  | @number held bounded =>
      cases held with
      | int integer =>
          unfold Num.IsTellable at bounded
          rw [write, if_neg (Nat.not_le_of_lt bounded)]
          rfl
      | real real =>
          rfl
  | _ =>
      rfl

/-- What is counted of a payload can be told. -/
theorem isTellable_counted
    {value : Json}
    (tellable : value.IsTellable) :
    value.counted.IsTellable := by
  cases value with
  | array items =>
      exact .string _
  | object fields =>
      exact .string _
  | _ =>
      exact tellable

/-- The fields of a payload that can be told are noted without a failure. -/
theorem writeFields_run
    {payload : Json}
    (tellable : payload.IsTellable)
    (intake : Intake) :
    (writeFields payload).run intake = .ok () intake := by
  cases tellable with
  | object known =>
      apply forM_run
      intro shown member
      obtain ⟨field, inFields, rfl⟩ := List.mem_map.mp member
      exact write_run (isTellable_counted (known field inFields)) intake
  | _ =>
      rfl

/-- An intake with another catalog in its session. -/
def withCatalog (intake : Intake) (catalog : Catalog) : Intake :=
  { intake with session := { intake.session with catalog } }

/-- The catalog takes note of a connection; the thickness of a connection can be written. -/
theorem supply_run
    (connection : Connection)
    (intake : Intake) :
    (supply connection).run intake =
      .ok () (intake.withCatalog (intake.session.catalog.noteConnection connection)) := by
  rw [supply, run_get_bind]
  cases found : intake.session.catalog.findKey? connection.key with
  | some material =>
      simp only [found, Catalog.noteConnection]
      rfl
  | none =>
      simp only [found, Catalog.noteConnection, Option.isNone_none, if_true]
      rw [run_bind_ok (run_modify _ intake)]
      have written : (Json.number (.real connection.thickness)).IsTellable := .number trivial
      exact write_run written _

/-- Supplying each connection is noting them all. -/
theorem supplyAll_run
    (connections : List Connection)
    (intake : Intake) :
    (forM connections supply).run intake =
      .ok () (intake.withCatalog (intake.session.catalog.noteConnections connections)) := by
  induction connections generalizing intake with
  | nil =>
      rfl
  | cons connection rest inductionHypothesis =>
      rw [List.forM_cons, run_bind_ok (supply_run connection intake), inductionHypothesis]
      rfl

/-- What was read is merged, written down and delivered without a failure. -/
theorem apply_run_ok
    {payload : Json}
    (tellable : payload.IsTellable)
    {snapshot : Snapshot}
    (read : Snapshot.ofPayload payload = .ok snapshot)
    (intake : Intake) :
    ∃ delivered,
      (apply payload).run intake =
        .ok () { session := intake.session.merged snapshot, delivered } := by
  have mergedRun :
      (merge payload).run intake = .ok (intake.session.world.update snapshot) intake := by
    rw [merge, run_get_bind, World.merge_eq, read]
    rfl
  rw [apply, run_get_bind, run_bind_ok mergedRun, assign, run_bind_ok (run_modify _ intake),
    run_bind_ok (writeFields_run tellable _)]
  by_cases unchanged :
      connectionsAgree (intake.session.world.update snapshot).connections
        intake.session.world.connections = true
  · refine ⟨intake.delivered, ?_⟩
    simp only [unchanged, if_true, Session.merged]
    rfl
  · refine ⟨intake.delivered ++ [(intake.session.world.update snapshot).connections], ?_⟩
    simp only [unchanged, Session.merged, Bool.false_eq_true, if_false]
    rw [deliver, run_bind_ok (run_modify _ _), supplyAll_run]
    rfl

/-- A message that holds a snapshot is taken in. -/
theorem takeIn_run_accepted
    {message : Message}
    {snapshot : Snapshot}
    (accepted : message.snapshot? = some snapshot)
    (intake : Intake) :
    ∃ delivered,
      (takeIn message).run intake =
        .ok true { session := intake.session.merged snapshot, delivered } := by
  obtain ⟨payload, held, wellFormed⟩ := Message.snapshot?_eq_some_iff.mp accepted
  have readRun : (read message).run intake = .ok payload intake := by
    rw [read, held]
    rfl
  obtain ⟨delivered, applied⟩ :=
    apply_run_ok (Message.isTellable_of_json held) wellFormed intake
  refine ⟨delivered, run_tryCatch_ok ?_⟩
  rw [run_bind_ok readRun, run_bind_ok applied]
  rfl

/-- A message that holds no snapshot fails before anything is changed. -/
theorem takeIn_run_dropped
    {message : Message}
    (refused : message.snapshot? = none)
    (intake : Intake) :
    (takeIn message).run intake =
      .ok false { intake with session := intake.session.drop } := by
  cases held : message.json with
  | error error =>
      have readRun : (read message).run intake = .error (.unreadable error) intake := by
        rw [read, held]
        rfl
      rw [takeIn, run_tryCatch_error (run_bind_error readRun)]
      rfl
  | ok payload =>
      have readRun : (read message).run intake = .ok payload intake := by
        rw [read, held]
        rfl
      cases wellFormed : Snapshot.ofPayload payload with
      | ok snapshot =>
          have accepted := Message.snapshot?_eq_some_iff.mpr ⟨payload, held, wellFormed⟩
          rw [refused] at accepted
          exact absurd accepted (by simp)
      | error error =>
          have mergeRun : (merge payload).run intake = .error (.malformed error) intake := by
            rw [merge, run_get_bind, World.merge_eq, wellFormed]
            rfl
          have applyRun : (apply payload).run intake = .error (.malformed error) intake := by
            rw [apply, run_get_bind, run_bind_error mergeRun]
          have bodyRun :
              (read message >>= fun payload => apply payload >>= fun _ => pure true).run intake =
                .error (.malformed error) intake := by
            rw [run_bind_ok readRun, run_bind_error applyRun]
          rw [takeIn, run_tryCatch_error bodyRun]
          rfl

/--
Taking in a message step by step never fails.  If the message is not taken in, it is counted, and
the world, the catalog and everything else are as before; if it is, the count is as before and the
world is the old one with the payload of the message merged into it.  The result and the session
are those of receiving the message at once.
-/
theorem takeIn_atomic
    (message : Message)
    (intake : Intake) :
    ∃ taken later,
      (takeIn message).run intake = .ok taken later ∧
        taken = (intake.session.receive message).result ∧
        later.session = (intake.session.receive message).session ∧
        (taken = false →
          later.session.world = intake.session.world ∧
            later.session.catalog = intake.session.catalog ∧
            later.delivered = intake.delivered ∧
            later.session.replica.dropped = intake.session.replica.dropped + 1) ∧
        (taken = true →
          later.session.replica.dropped = intake.session.replica.dropped ∧
            ∃ payload, message.json = .ok payload ∧
              intake.session.world.merge payload = .ok later.session.world) := by
  cases held : message.snapshot? with
  | none =>
      obtain ⟨note, received⟩ := intake.session.receive_dropped held
      refine ⟨false, _, takeIn_run_dropped held intake, ?_⟩
      rw [received]
      exact ⟨rfl, rfl, fun _ => ⟨rfl, rfl, rfl, rfl⟩, fun impossible => absurd impossible (by simp)⟩
  | some snapshot =>
      obtain ⟨payload, read, wellFormed⟩ := Message.snapshot?_eq_some_iff.mp held
      obtain ⟨delivered, taken⟩ := takeIn_run_accepted held intake
      refine ⟨true, _, taken, ?_⟩
      rw [intake.session.receive_accepted held]
      refine ⟨rfl, rfl, fun impossible => absurd impossible (by simp), fun _ => ?_⟩
      refine ⟨rfl, payload, read, ?_⟩
      rw [World.merge_eq, wellFormed]
      rfl

/-- A message whose last field holds a clip without a target, behind a connection that is new. -/
theorem takeIn_atomic_lastField :
    let message : Message :=
      .text ("\x7b\"connections\": [\x7b\"fromId\": 1, \"toId\": 2, \"color\": \"red\", "
        ++ "\"thickness\": 2\x7d], \"clips\": [\x7b\"id\": \"a\"\x7d]\x7d")
    let intake : Intake := { session := .fresh none {} }
    ∃ later,
      (takeIn message).run intake = .ok false later ∧
        later.session.world.connections = [] ∧ later.session.catalog.materials = [] ∧
        later.delivered = [] ∧ later.session.replica.dropped = 1 := by
  intro message intake
  have refused : (intake.session.receive message).result = false := by
    decide +kernel
  obtain ⟨taken, later, run, result, -, untouched, -⟩ := takeIn_atomic message intake
  have notTaken : taken = false := result.trans refused
  obtain ⟨world, catalog, delivered, dropped⟩ := untouched notTaken
  refine ⟨later, ?_, ?_, ?_, delivered, dropped⟩
  · rw [run, notTaken]
  · rw [world]
    rfl
  · rw [catalog]
    rfl

end Intake

end SceneEditor
