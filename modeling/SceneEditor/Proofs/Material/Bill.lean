import Mathlib.Data.List.Pairwise
import SceneEditor.Material.Bill
import SceneEditor.Proofs.Material.Catalog

namespace SceneEditor

/-!
# What the rows of a bill count

The materials and the marks of the rows come from the catalog alone.  A row matches a connection if
their keys agree, and its length is the sum over the connections that it matches.
-/

/-- A row of the bill without its numbers. -/
structure RowHead where
  material : Material
  isDuplicate : Bool
  deriving DecidableEq, Repr

/-- The row is the one of the connection's key. -/
def RowHead.matches (head : RowHead) (connection : Connection) : Bool :=
  head.material.key.agrees connection.key

/-- What a row of a bill says before its sums. -/
def BillRow.head (row : BillRow) : RowHead where
  material := row.material
  isDuplicate := row.isDuplicate

/-- The heads of the rows that a bill of the catalog has. -/
def Catalog.heads (catalog : Catalog) : List RowHead :=
  catalog.materials.map fun material => { material, isDuplicate := catalog.isDuplicate material }

/-- Both endpoints of the connection are among the points. -/
def Connection.isPlaced (points : List Point) (connection : Connection) : Bool :=
  (points.any fun point => point.id == connection.fromId)
    && points.any fun point => point.id == connection.toId

namespace Catalog

/-- A material is a duplicate exactly if another one has its key. -/
theorem isDuplicate_iff
    {catalog : Catalog}
    {material : Material} :
    catalog.isDuplicate material = true ↔
      ∃ other ∈ catalog.materials,
        other.id ≠ material.id ∧ other.key.agrees material.key = true := by
  simp [isDuplicate]

/-- The head of a row is that of the material at its place. -/
theorem heads_getElem?
    {catalog : Catalog}
    {place : Nat}
    {head : RowHead}
    (at? : catalog.heads[place]? = some head) :
    catalog.materials[place]? = some head.material ∧
      head.isDuplicate = catalog.isDuplicate head.material := by
  rw [heads, List.getElem?_map, Option.map_eq_some_iff] at at?
  obtain ⟨material, found, rfl⟩ := at?
  exact ⟨found, rfl⟩

/-- A row is a duplicate if another row matches a connection that it matches. -/
theorem isDuplicate_of_matches
    {catalog : Catalog}
    (numbered : catalog.IsNumbered)
    {first second : Nat}
    (apart : first ≠ second)
    {head other : RowHead}
    (headAt : catalog.heads[first]? = some head)
    (otherAt : catalog.heads[second]? = some other)
    {connection : Connection}
    (headMatches : head.matches connection = true)
    (otherMatches : other.matches connection = true) :
    head.isDuplicate = true := by
  obtain ⟨material, marked⟩ := heads_getElem? headAt
  obtain ⟨otherMaterial, -⟩ := heads_getElem? otherAt
  rw [marked, isDuplicate_iff]
  refine ⟨other.material, List.mem_of_getElem? otherMaterial, ?_, ?_⟩
  · intro sameId
    have samePlace :
        (catalog.materials.map Material.id)[second]? =
          (catalog.materials.map Material.id)[first]? := by
      rw [List.getElem?_map, List.getElem?_map, material, otherMaterial]
      exact congrArg some sameId
    obtain ⟨within, -⟩ := List.getElem?_eq_some_iff.mp otherMaterial
    have withinIds : second < (catalog.materials.map Material.id).length := by
      simpa using within
    exact apart ((List.getElem?_inj withinIds numbered.distinct).mp samePlace).symm
  · exact MaterialKey.agrees_trans otherMatches (MaterialKey.agrees_symm headMatches)

/-- Where keys differ, materials with agreeing keys are the same. -/
theorem KeysDiffer.eq_of_agrees
    {catalog : Catalog}
    (differ : catalog.KeysDiffer)
    {first second : Material}
    (firstMember : first ∈ catalog.materials)
    (secondMember : second ∈ catalog.materials)
    (agrees : first.key.agrees second.key = true) :
    first = second := by
  have symmetric : Std.Symm fun first second : Material => first.key.agrees second.key = false :=
    ⟨fun first second apart => (MaterialKey.agrees_comm second.key first.key).trans apart⟩
  by_contra different
  have apart := List.Pairwise.forall differ firstMember secondMember different
  rw [agrees] at apart
  exact Bool.noConfusion apart

/-- Where keys differ, no row is a duplicate. -/
theorem KeysDiffer.isDuplicate_eq_false
    {catalog : Catalog}
    (differ : catalog.KeysDiffer)
    {material : Material}
    (member : material ∈ catalog.materials) :
    catalog.isDuplicate material = false := by
  rw [Bool.eq_false_iff]
  intro duplicate
  obtain ⟨other, otherMember, otherId, agrees⟩ := isDuplicate_iff.mp duplicate
  exact otherId (congrArg Material.id (differ.eq_of_agrees otherMember member agrees))

/-- Where keys differ, a connection that is covered is matched by one row and no other. -/
theorem KeysDiffer.matches_once
    {catalog : Catalog}
    (differ : catalog.KeysDiffer)
    {connections : List Connection}
    (covers : catalog.Covers connections)
    {connection : Connection}
    (member : connection ∈ connections) :
    (catalog.heads.filter fun head => head.matches connection).length = 1 := by
  obtain ⟨material, known, agrees⟩ := covers connection member
  have headsDiffer :
      catalog.heads.Pairwise fun first second =>
        first.material.key.agrees second.material.key = false := by
    rw [heads, List.pairwise_map]
    exact differ
  exact MaterialKey.length_filter_agrees headsDiffer (List.mem_map_of_mem known) agrees

end Catalog

/-!
## Lengths
-/

/-- A point is found exactly if its id is among the points. -/
theorem Point.last?_isSome
    (points : List Point)
    (id : Int) :
    (Point.last? points id).isSome = points.any fun point => point.id == id := by
  rw [Point.last?, Bool.eq_iff_iff, List.find?_isSome, List.any_eq_true]
  simp

namespace Bill

/-- A connection that could be measured has a length exactly if it is placed. -/
theorem isSome_of_length?
    {points : List Point}
    {connection : Connection}
    {length? : Option Binary64}
    (measured : Bill.length? points connection = .ok length?) :
    length?.isSome = connection.isPlaced points := by
  rw [Connection.isPlaced, ← Point.last?_isSome, ← Point.last?_isSome]
  unfold Bill.length? at measured
  split at measured
  · next first second firstThere secondThere =>
      rw [firstThere, secondThere]
      obtain ⟨length, -, rfl⟩ := Attempt.map_eq_ok_iff.mp measured
      rfl
  · next missing =>
      obtain rfl := Except.ok.inj measured
      cases fromThere : Point.last? points connection.fromId with
      | none =>
          rfl
      | some first =>
          cases toThere : Point.last? points connection.toId with
          | none =>
              rfl
          | some second =>
              exact (missing first second fromThere toThere).elim

/-- The first connection is measured before the rest. -/
theorem measured_cons
    {points : List Point}
    {first : Connection}
    {rest : List Connection}
    {entries : List (MaterialKey × Binary64)}
    (completes : measured points (first :: rest) = .ok entries) :
    ∃ span? restEntries,
      length? points first = .ok span? ∧
        measured points rest = .ok restEntries ∧
        entries = (span?.map fun length => (first.key, length)).toList ++ restEntries := by
  obtain ⟨all, spans, result⟩ := Attempt.bind_eq_ok_iff.mp completes
  obtain rfl := Except.ok.inj result
  rw [List.mapM_cons] at spans
  obtain ⟨head, headRun, restRun⟩ := Attempt.bind_eq_ok_iff.mp spans
  obtain ⟨span?, measuredFirst, headResult⟩ := Attempt.bind_eq_ok_iff.mp headRun
  obtain ⟨others, othersRun, othersResult⟩ := Attempt.bind_eq_ok_iff.mp restRun
  obtain rfl := Except.ok.inj headResult
  obtain rfl := Except.ok.inj othersResult
  refine ⟨span?, others.filterMap id, measuredFirst, ?_, ?_⟩
  · rw [measured, othersRun]
    rfl
  · cases span? <;> rfl

/-- The lengths of one key are those of the connections that have the key and both endpoints. -/
theorem measured_filter
    {points : List Point}
    {connections : List Connection}
    {entries : List (MaterialKey × Binary64)}
    (completes : measured points connections = .ok entries)
    (key : MaterialKey) :
    (connections.filter fun connection =>
        key.agrees connection.key && connection.isPlaced points).map (length? points) =
      ((entries.filter fun (known, _) => known.agrees key).map Prod.snd).map
        fun length => .ok (some length) := by
  induction connections generalizing entries with
  | nil =>
      obtain rfl := Except.ok.inj completes
      rfl
  | cons first rest inductionHypothesis =>
      obtain ⟨span?, restEntries, span, restCompletes, rfl⟩ := measured_cons completes
      have restLengths := inductionHypothesis restCompletes
      have placed := isSome_of_length? span
      rw [List.filter_cons, ← placed]
      cases span? with
      | none =>
          simpa using restLengths
      | some length =>
          by_cases agrees : key.agrees first.key = true
          · have agreesBack := MaterialKey.agrees_symm agrees
            simpa [agrees, agreesBack, span] using restLengths
          · have apart : first.key.agrees key = false := by
              rw [MaterialKey.agrees_comm, Bool.eq_false_iff]
              exact agrees
            simpa [agrees, apart] using restLengths

/-- A bill that completes has a row for each material, in their order. -/
theorem heads_of
    {catalog : Catalog}
    {connections : List Connection}
    {points : List Point}
    {bill : Bill}
    (completes : Bill.of catalog connections points = .ok bill) :
    bill.rows.map BillRow.head = catalog.heads := by
  obtain ⟨entries, -, result⟩ := Attempt.bind_eq_ok_iff.mp completes
  obtain rfl := Except.ok.inj result
  simp only [List.map_map, Catalog.heads]
  rfl

/-- A row sums up the lengths of the connections that it matches and whose endpoints are there. -/
theorem length_of
    {catalog : Catalog}
    {connections : List Connection}
    {points : List Point}
    {bill : Bill}
    (completes : Bill.of catalog connections points = .ok bill)
    {row : BillRow}
    (member : row ∈ bill.rows) :
    ∃ lengths,
      (connections.filter fun connection =>
          row.head.matches connection && connection.isPlaced points).map (length? points) =
        lengths.map (fun length => .ok (some length)) ∧
      row.length = sum lengths := by
  obtain ⟨entries, measuredEntries, result⟩ := Attempt.bind_eq_ok_iff.mp completes
  obtain rfl := Except.ok.inj result
  obtain ⟨material, -, rfl⟩ := List.mem_map.mp member
  exact ⟨_, measured_filter measuredEntries material.key, rfl⟩

end Bill

end SceneEditor
