import SceneEditor.Proofs.Material.Bill
import SceneEditor.Proofs.Material.FreeThickness
import SceneEditor.Proofs.Session.Run

namespace SceneEditor.Session

/-!
# Nothing is left out of the bill

The bill has a row for every material, and the catalog learns of connections only when they change.
As long as no material is edited, every connection of the world has exactly one row.  Edits may
leave a connection without a row or give it several, but the next change of the connections brings
back the rows that are missing, and rows for one connection are always marked as duplicates.
-/

/-- The action edits a material. -/
def Action.isEdit : Action → Bool
  | .updateMaterial .. => true
  | _ => false

/-- The keys of the catalog differ, and it covers the connections of the world. -/
structure IsTidy (session : Session) : Prop where
  differ : session.catalog.KeysDiffer
  covers : session.catalog.Covers session.world.connections

/-- Every connection of the world has exactly one row, and no row is marked. -/
structure CountsOnce (session : Session) : Prop where
  keysDiffer : session.catalog.KeysDiffer
  unmarked : ∀ head ∈ session.catalog.heads, head.isDuplicate = false
  once :
    ∀ connection ∈ session.world.connections,
      (session.catalog.heads.filter fun head => head.matches connection).length = 1

/-- Every connection of the world has a row. -/
def CountsAll (session : Session) : Prop :=
  ∀ connection ∈ session.world.connections,
    ∃ head ∈ session.catalog.heads, head.matches connection = true

/-- Two rows for one connection are both marked. -/
def MarksDoubles (session : Session) : Prop :=
  ∀ {first second : Nat} {head other : RowHead} {connection : Connection},
    first ≠ second →
      session.catalog.heads[first]? = some head → session.catalog.heads[second]? = some other →
        head.matches connection = true → other.matches connection = true →
          head.isDuplicate = true ∧ other.isDuplicate = true

/--
The rows are those of the catalog, and each sums up, from zero and from left to right, the lengths of
the connections that it matches and whose endpoints are there.
-/
structure IsBilled (session : Session) (bill : Bill) : Prop where
  heads : bill.rows.map BillRow.head = session.catalog.heads
  lengths :
    ∀ row ∈ bill.rows, ∃ lengths : List Binary64,
      (session.world.connections.filter fun connection =>
          row.head.matches connection && connection.isPlaced session.world.points).map
          (Bill.length? session.world.points) =
        lengths.map (fun length => .ok (some length)) ∧
      row.length = lengths.foldl Binary64.add 0

/-!
## Steps
-/

/-- Each step keeps the catalog numbered. -/
theorem Step.isNumbered
    {session later : Session}
    {action : Action}
    (step : Step session action later)
    (numbered : session.catalog.IsNumbered) :
    later.catalog.IsNumbered := by
  cases step with
  | quiet still kept =>
      rw [kept.catalog]
      exact numbered
  | @merged _ snapshot held =>
      cases changed :
          connectionsAgree (session.merged snapshot).world.connections
            session.world.connections with
      | true =>
          rw [merged_catalog_of_unchanged changed]
          exact numbered
      | false =>
          rw [merged_catalog_of_changed changed]
          exact numbered.noteConnections _
  | dropped refused =>
      exact numbered
  | sought target =>
      exact numbered
  | added =>
      exact numbered.push Color.white (.int session.catalog.freeThickness)
  | edited edit =>
      exact numbered.update edit

/-- A snapshot that changes the connections leaves none without a row. -/
theorem covers_merged
    {session : Session}
    {snapshot : Snapshot}
    (changed :
      connectionsAgree (session.merged snapshot).world.connections session.world.connections =
        false) :
    (session.merged snapshot).catalog.Covers (session.merged snapshot).world.connections := by
  rw [merged_catalog_of_changed changed]
  exact session.catalog.covers_noteConnections _

/-- A snapshot keeps a session tidy. -/
theorem IsTidy.merged
    {session : Session}
    (tidy : session.IsTidy)
    (snapshot : Snapshot) :
    (session.merged snapshot).IsTidy := by
  cases changed :
      connectionsAgree (session.merged snapshot).world.connections session.world.connections with
  | true =>
      constructor
      · rw [merged_catalog_of_unchanged changed]
        exact tidy.differ
      · rw [merged_catalog_of_unchanged changed]
        exact tidy.covers.of_connectionsAgree changed
  | false =>
      constructor
      · rw [merged_catalog_of_changed changed]
        exact tidy.differ.noteConnections _
      · exact covers_merged changed

/-- Each step that edits no material keeps a session tidy. -/
theorem Step.isTidy
    {session later : Session}
    {action : Action}
    (step : Step session action later)
    (noEdit : action.isEdit = false)
    (tidy : session.IsTidy) :
    later.IsTidy := by
  cases step with
  | quiet still kept =>
      constructor
      · rw [kept.catalog]
        exact tidy.differ
      · rw [kept.catalog, kept.world]
        exact tidy.covers
  | merged held =>
      exact tidy.merged _
  | dropped refused =>
      exact ⟨tidy.differ, tidy.covers⟩
  | sought target =>
      exact ⟨tidy.differ, tidy.covers⟩
  | added =>
      constructor
      · exact tidy.differ.push session.catalog.findKey?_freeThickness
      · exact tidy.covers.push Color.white (.int session.catalog.freeThickness)
  | edited edit =>
      exact Bool.noConfusion noEdit

/-!
## Runs
-/

/-- The catalog is numbered in any session from the start. -/
theorem isNumbered_run
    (answer? : Option Bool)
    (settings : TimelineSettings)
    (actions : List Action) :
    ((fresh answer? settings).run actions).catalog.IsNumbered := by
  have atStart : (fresh answer? settings).catalog.IsNumbered :=
    ⟨List.nodup_nil, fun _ member => absurd member List.not_mem_nil⟩
  have kept
      (session : Session)
      (action : Action)
      (_ : action ∈ actions)
      (numbered : session.catalog.IsNumbered) :
      (session.after action).catalog.IsNumbered :=
    (session.step_after action).isNumbered numbered
  exact run_induction kept atStart

/-- A session from the start is tidy as long as no material is edited. -/
theorem isTidy_run
    (answer? : Option Bool)
    (settings : TimelineSettings)
    {actions : List Action}
    (noEdits : ∀ action ∈ actions, action.isEdit = false) :
    ((fresh answer? settings).run actions).IsTidy := by
  have atStart : (fresh answer? settings).IsTidy :=
    ⟨List.Pairwise.nil, fun _ member => absurd member List.not_mem_nil⟩
  have kept
      (session : Session)
      (action : Action)
      (member : action ∈ actions)
      (tidy : session.IsTidy) :
      (session.after action).IsTidy :=
    (session.step_after action).isTidy (noEdits action member) tidy
  exact run_induction kept atStart

/-- A tidy session counts each connection once. -/
theorem IsTidy.countsOnce
    {session : Session}
    (tidy : session.IsTidy) :
    session.CountsOnce := by
  refine ⟨tidy.differ, ?_, ?_⟩
  · intro head member
    obtain ⟨material, known, rfl⟩ := List.mem_map.mp member
    exact tidy.differ.isDuplicate_eq_false known
  · intro connection member
    exact tidy.differ.matches_once tidy.covers member

/-- A catalog that covers the connections counts them all. -/
theorem countsAll_of_covers
    {session : Session}
    (covers : session.catalog.Covers session.world.connections) :
    session.CountsAll := by
  intro connection member
  obtain ⟨material, known, agrees⟩ := covers connection member
  exact ⟨_, List.mem_map_of_mem known, agrees⟩

/-- A numbered catalog marks its doubles. -/
theorem marksDoubles_of_isNumbered
    {session : Session}
    (numbered : session.catalog.IsNumbered) :
    session.MarksDoubles := by
  intro first second head other connection apart headAt otherAt headMatches otherMatches
  constructor
  · exact Catalog.isDuplicate_of_matches numbered apart headAt otherAt headMatches otherMatches
  · exact Catalog.isDuplicate_of_matches numbered apart.symm otherAt headAt otherMatches headMatches

/--
What the bill counts at the end of any run.  If no material was edited, every connection of the
world has exactly one row and no row is marked as a duplicate.  In any case a message that changes
the connections leaves none without a row, and two rows for one connection are both marked.  A bill
that completes has these rows, and each of them sums up the connections that it matches.
-/
theorem run_conserves
    (answer? : Option Bool)
    (settings : TimelineSettings)
    (actions : List Action) :
    let session := (fresh answer? settings).run actions
    ((∀ action ∈ actions, action.isEdit = false) → session.CountsOnce) ∧
      (∀ message,
        (session.receive message).result = true →
          connectionsAgree (session.receive message).session.world.connections
              session.world.connections = false →
            (session.receive message).session.CountsAll) ∧
      session.MarksDoubles ∧
      ∀ bill, session.bill = .ok bill → session.IsBilled bill := by
  intro session
  refine ⟨?_, ?_, ?_, ?_⟩
  · intro noEdits
    exact (isTidy_run answer? settings noEdits).countsOnce
  · intro message accepted changed
    cases held : message.snapshot? with
    | none =>
        obtain ⟨note, received⟩ := session.receive_dropped held
        rw [received] at accepted
        exact Bool.noConfusion accepted
    | some snapshot =>
        rw [session.receive_accepted held] at changed ⊢
        exact countsAll_of_covers (covers_merged changed)
  · exact marksDoubles_of_isNumbered (isNumbered_run answer? settings actions)
  · intro bill completes
    exact ⟨Bill.heads_of completes, fun row member => Bill.length_of completes member⟩

/-- A red connection of length five, a material that nobody uses yet, and a thicker connection. -/
theorem run_conserves_red :
    let first : Message :=
      .text ("\x7b\"points\": [\x7b\"id\": 1, \"x\": 0, \"y\": 0, \"z\": 0\x7d, "
        ++ "\x7b\"id\": 2, \"x\": 3, \"y\": 4, \"z\": 0\x7d], \"connections\": "
        ++ "[\x7b\"fromId\": 1, \"toId\": 2, \"color\": \"red\", \"thickness\": 2\x7d]\x7d")
    let second : Message :=
      .text ("\x7b\"connections\": "
        ++ "[\x7b\"fromId\": 2, \"toId\": 1, \"color\": \"#f00\", \"thickness\": 3\x7d]\x7d")
    let session := (fresh none {}).run [.receive first, .addMaterial]
    session.CountsOnce ∧ (session.receive second).session.CountsAll ∧
      ∃ bill, session.bill = .ok bill ∧ session.IsBilled bill ∧
        bill.rows.map BillRow.length = [5, 0] := by
  intro first second session
  obtain ⟨countsOnce, countsAll, -, billed⟩ :=
    run_conserves none {} [.receive first, .addMaterial]
  have noEdits : ∀ action ∈ [Action.receive first, .addMaterial], action.isEdit = false := by
    simp [Action.isEdit]
  have accepted : (session.receive second).result = true := by
    decide +kernel
  have changed :
      connectionsAgree (session.receive second).session.world.connections
        session.world.connections = false := by
    decide +kernel
  have lengths :
      session.bill.toOption.map (fun bill => bill.rows.map BillRow.length) = some [5, 0] := by
    decide +kernel
  refine ⟨countsOnce noEdits, countsAll second accepted changed, ?_⟩
  cases bill : session.bill with
  | error error =>
      rw [bill] at lengths
      exact absurd lengths (Option.some_ne_none _).symm
  | ok result =>
      rw [bill] at lengths
      exact ⟨result, rfl, billed result bill, Option.some.inj lengths⟩

end SceneEditor.Session
