import SceneEditor.Panel.Sheet
import SceneEditor.Proofs.Attempt
import SceneEditor.Proofs.Material.FreeThickness
import SceneEditor.Proofs.Number.Rounding

namespace SceneEditor

open Attempt

/-!
# What the panels of materials cannot show

Two things may be too large for the panels of materials: the distance between the ends of a connection,
whose square has to be finite, and the thickness of a material that is an integer.  Only an
added material has such a thickness, so that it is not much larger than the catalog.
-/

namespace Binary64

/-- The square of the number is out of range, although the number is not. -/
def SquareOverflows (value : Binary64) : Prop :=
  value.isFinite = true ∧ ∃ negative, value.mul value = .infinity negative

end Binary64

/-- In one coordinate the points are so far apart that the square is out of range. -/
def Point.TooFar (first second : Point) : Prop :=
  (second.x.sub first.x).SquareOverflows ∨
    (second.y.sub first.y).SquareOverflows ∨
    (second.z.sub first.z).SquareOverflows

/-- Both ends of the connection are known, and they are too far apart. -/
def Connection.SpansTooFar (points : List Point) (connection : Connection) : Prop :=
  ∃ first second,
    Point.last? points connection.fromId = some first ∧
      Point.last? points connection.toId = some second ∧
      first.TooFar second

namespace Bill

/-- A square fails exactly if it is too large to be finite. -/
theorem square_failsIf (value : Binary64) :
    FailsIf (square value) .squareTooLarge value.SquareOverflows := by
  intro error
  rw [square, Binary64.SquareOverflows]
  cases finite : value.isFinite with
  | false =>
      simp
  | true =>
      cases product : value.mul value with
      | nan =>
          simp
      | infinity negative =>
          simp [eq_comm]
      | finite negative rank =>
          simp

/-- A distance fails exactly between points that are too far from each other. -/
theorem distance_failsIf (first second : Point) :
    FailsIf (distance first second) .squareTooLarge (first.TooFar second) :=
  (square_failsIf _).bind fun _ =>
    (square_failsIf _).bind fun _ =>
      (square_failsIf _).bind_ok fun _ => ⟨_, rfl⟩

/-- A length fails exactly for a connection between points that are too far from each other. -/
theorem length?_failsIf
    (points : List Point)
    (connection : Connection) :
    FailsIf (length? points connection) .squareTooLarge (connection.SpansTooFar points) := by
  rw [length?, Connection.SpansTooFar]
  cases start : Point.last? points connection.fromId with
  | none =>
      exact failsIf_of_ok (by simp)
  | some first =>
      cases stop : Point.last? points connection.toId with
      | none =>
          exact failsIf_of_ok (by simp)
      | some second =>
          exact ((distance_failsIf first second).map some).of_iff (by simp)

/-- Measuring fails exactly if a connection spans too far. -/
theorem measured_failsIf
    (points : List Point)
    (connections : List Connection) :
    FailsIf (measured points connections) .squareTooLarge
      (∃ connection ∈ connections, connection.SpansTooFar points) := by
  rw [measured]
  refine FailsIf.bind_ok (failsIf_mapM (fun connection => ?_) connections) fun _ => ⟨_, rfl⟩
  exact (length?_failsIf points connection).bind_ok fun _ => ⟨_, rfl⟩

/-- A bill can be made unless the known ends of a connection are too far apart. -/
theorem of_failsIf
    (catalog : Catalog)
    (connections : List Connection)
    (points : List Point) :
    FailsIf (Bill.of catalog connections points) .squareTooLarge
      (∃ connection ∈ connections, connection.SpansTooFar points) := by
  rw [Bill.of]
  exact (measured_failsIf points connections).bind_ok fun _ => ⟨_, rfl⟩

end Bill

/-!
## Thickness
-/

/-- The thickness of the material is an integer that no finite number is near to. -/
def Material.TooThick (material : Material) : Prop :=
  ∃ value negative,
    material.thickness = .int value ∧ Binary64.ofInt value = .infinity negative

/-- The materials can be shown unless one of them is too thick. -/
theorem Panel.materialLines_failsIf (session : Session) :
    FailsIf (materialLines session) .integerTooLarge
      (∃ material ∈ session.catalog.materials, material.TooThick) := by
  refine failsIf_mapM (fun material => ?_) session.catalog.materials
  exact (Num.toReal_failsIf material.thickness).bind_ok fun _ => ⟨_, rfl⟩

namespace Catalog

/-- A thickness that is an integer is not much larger than the catalog. -/
def ThicknessWithin (catalog : Catalog) : Prop :=
  ∀ material ∈ catalog.materials, ∀ value,
    material.thickness = .int value → value.natAbs ≤ catalog.size + 2

/-- A material that is too thick to be shown takes a catalog of an absurd size. -/
theorem ThicknessWithin.size_of_tooThick
    {catalog : Catalog}
    (within : catalog.ThicknessWithin)
    {material : Material}
    (member : material ∈ catalog.materials)
    (tooThick : material.TooThick) :
    2 ^ Binary64.safeIntegerBits ≤ catalog.size + 2 := by
  obtain ⟨value, negative, thickness, infinite⟩ := tooThick
  have large : 2 ^ Binary64.safeIntegerBits ≤ value.natAbs := by
    apply Nat.le_of_not_lt
    intro small
    have finite := Binary64.ofInt_isFinite small
    rw [infinite] at finite
    exact Bool.noConfusion finite
  exact Nat.le_trans large (within material member value thickness)

theorem thicknessWithin_nil (nextId : Nat) :
    ({ nextId } : Catalog).ThicknessWithin := by
  intro material member
  exact absurd member List.not_mem_nil

theorem ThicknessWithin.push
    {catalog : Catalog}
    (within : catalog.ThicknessWithin)
    (color : String)
    {thickness : Num}
    (bounded : ∀ value, thickness = .int value → value.natAbs ≤ catalog.size + 3) :
    (catalog.push color thickness).1.ThicknessWithin := by
  have size : (catalog.push color thickness).1.size = catalog.size + 1 := by
    simp [Catalog.push, Catalog.size]
  intro material member value isInteger
  rw [size]
  rcases List.mem_append.mp member with earlier | added
  · exact Nat.le_succ_of_le (within material earlier value isInteger)
  · obtain rfl := List.mem_singleton.mp added
    exact bounded value isInteger

theorem ThicknessWithin.addMaterial
    {catalog : Catalog}
    (within : catalog.ThicknessWithin) :
    catalog.addMaterial.1.ThicknessWithin := by
  apply within.push
  intro value same
  obtain rfl := Num.int.inj same
  exact catalog.freeThickness_le

theorem ThicknessWithin.noteConnections
    {catalog : Catalog}
    (within : catalog.ThicknessWithin)
    (connections : List Connection) :
    (catalog.noteConnections connections).ThicknessWithin := by
  induction connections generalizing catalog with
  | nil =>
      exact within
  | cons connection rest inductionHypothesis =>
      apply inductionHypothesis
      unfold noteConnection
      split
      · exact within
      · apply within.push
        intro value isInteger
        exact absurd isInteger (by simp)

theorem ThicknessWithin.update
    {catalog later : Catalog}
    (within : catalog.ThicknessWithin)
    {id fieldName : String}
    {value : Json}
    {changed : Bool}
    (edited : catalog.update id fieldName value = .ok (later, changed)) :
    later.ThicknessWithin := by
  rcases update_cases edited with rfl | ⟨field, change, -, edit, rfl⟩
  · exact within
  · have sameSize : (catalog.modify id change).size = catalog.size := by
      have sameIds := congrArg List.length (catalog.map_modify id (change?_keepsId edit))
      simpa [size] using sameIds
    intro material member thickness isInteger
    rw [sameSize]
    obtain ⟨earlier, isEarlier, rfl | rfl⟩ := mem_modify member
    · exact within material isEarlier thickness isInteger
    · rcases (change?_edits edit earlier).thickness_cases with same | ⟨real, isReal⟩
      · exact within earlier isEarlier thickness (same.symm.trans isInteger)
      · exact absurd (isReal.symm.trans isInteger) (by simp)

end Catalog

end SceneEditor
