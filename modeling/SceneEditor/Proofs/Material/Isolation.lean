import Mathlib.Data.List.Forall2
import SceneEditor.Proofs.Material.Bill
import SceneEditor.Proofs.Material.Derivation

namespace SceneEditor

/-!
# What an edit does to the bill

An edit sets one field of one material where it stands, and the lengths of the connections do not come
from the catalog.  So the bill completes as before, and the row of any other material has the
length and the cost that it had.  What the edit can change there is the mark of a duplicate, and
only in a row whose key the material had or was given.
-/

/-- The edited material in its own place, and any other material in its own. -/
def Material.put (edited other : Material) : Material :=
  if other.id = edited.id then edited else other

/-- How a row of the bill may change when a field of the material is edited. -/
structure BillRow.Isolated
    (field : MaterialField)
    (material edited : Material)
    (row later : BillRow) : Prop where
  inPlace : later.material = edited.put row.material
  /-- The rows of the others keep their numbers. -/
  keepsNumbers :
    row.material.id ≠ material.id → later.length = row.length ∧ later.cost = row.cost
  /-- The rows of the others keep their marks, unless the edited material had or has their key. -/
  keepsMark :
    row.material.id ≠ material.id →
      row.material.key.agrees material.key = false →
        row.material.key.agrees edited.key = false → later.isDuplicate = row.isDuplicate
  /-- A price changes no length and no mark, not even in the row of the material itself. -/
  keepsPriced :
    field = .price → later.length = row.length ∧ later.isDuplicate = row.isDuplicate

namespace Material

/-- A material takes its own place. -/
@[simp] theorem put_self (edited : Material) :
    edited.put edited = edited :=
  if_pos rfl

/-- A material of another id stays. -/
theorem put_of_ne
    {edited other : Material}
    (different : other.id ≠ edited.id) :
    edited.put other = other :=
  if_neg different

theorem put_id (edited other : Material) :
    (edited.put other).id = other.id := by
  rw [put]
  split
  · next same =>
    exact same.symm
  · rfl

/-- An edit of the price leaves the key alone. -/
theorem Edited.key_eq
    {material later : Material}
    (edited : material.Edited .price later) :
    later.key = material.key := by
  cases edited
  rfl

end Material

namespace MaterialField

/-- Each field is found by its title. -/
theorem ofName?_title (field : MaterialField) :
    ofName? field.title = some field := by
  cases field <;> rfl

end MaterialField

namespace Catalog

/-- The identifiers of the materials are distinct. -/
def IsDistinct (catalog : Catalog) : Prop :=
  (catalog.materials.map Material.id).Nodup

/-- Where ids are distinct, an id tells the material. -/
theorem IsDistinct.eq_of_id
    {catalog : Catalog}
    (distinct : catalog.IsDistinct)
    {first second : Material}
    (firstMember : first ∈ catalog.materials)
    (secondMember : second ∈ catalog.materials)
    (same : first.id = second.id) :
    first = second :=
  List.inj_on_of_nodup_map distinct firstMember secondMember same

/-- An edit of a material puts the edited one into its place. -/
theorem IsDistinct.exists_edited
    {catalog : Catalog}
    (distinct : catalog.IsDistinct)
    {material : Material}
    (member : material ∈ catalog.materials)
    (field : MaterialField)
    (value : Json) :
    ∃ edited,
      (edited = material ∨ material.Edited field edited) ∧
        (catalog.after (.edit material.id field.title value)).materials =
          catalog.materials.map edited.put := by
  have moves := catalog.moves_after (.edit material.id field.title value)
  generalize catalog.after (.edit material.id field.title value) = later at moves
  cases moves with
  | kept =>
      refine ⟨material, Or.inl rfl, ?_⟩
      have same : ∀ other ∈ catalog.materials, material.put other = other := by
        intro other isOther
        by_cases sameId : other.id = material.id
        · rw [distinct.eq_of_id isOther member sameId, Material.put_self]
        · exact Material.put_of_ne sameId
      rw [List.map_congr_left same, List.map_id']
  | @edited _ _ _ found before behind source changed _ named shape others sameId edited set =>
      obtain rfl : field = found := by
        rw [MaterialField.ofName?_title] at named
        exact Option.some.inj named
      have isSource : source ∈ catalog.materials := by
        rw [shape]
        exact List.mem_append_right _ List.mem_cons_self
      obtain rfl := distinct.eq_of_id isSource member sameId
      have changedId := edited.id_eq
      have inFront : ∀ other ∈ before, changed.put other = other := fun other isOther =>
        Material.put_of_ne (changedId ▸ others other isOther)
      have behindIt : ∀ other ∈ behind, changed.put other = other := by
        intro other isOther
        refine Material.put_of_ne fun same => ?_
        have ids := distinct
        rw [IsDistinct, shape, List.map_append, List.map_cons] at ids
        have unique := (List.nodup_cons.mp ids.of_append_right).1
        exact unique (changedId ▸ same ▸ List.mem_map_of_mem isOther)
      have itself : changed.put source = changed := if_pos changedId.symm
      refine ⟨changed, Or.inr edited, ?_⟩
      rw [set, shape, List.map_append, List.map_cons, List.map_congr_left inFront,
        List.map_congr_left behindIt, itself, List.map_id', List.map_id']

/-- A mark depends on the keys of the others, as far as they agree with the key of the material. -/
theorem isDuplicate_put
    {catalog later : Catalog}
    {edited : Material}
    (put : later.materials = catalog.materials.map edited.put)
    {material marked : Material}
    (sameId : marked.id = material.id)
    (sameKeys :
      ∀ other ∈ catalog.materials,
        (edited.put other).key.agrees marked.key = other.key.agrees material.key) :
    later.isDuplicate marked = catalog.isDuplicate material := by
  rw [isDuplicate, isDuplicate, put, List.any_map, Bool.eq_iff_iff, List.any_eq_true,
    List.any_eq_true]
  refine exists_congr fun other => and_congr_right fun member => ?_
  simp [Material.put_id, sameId, sameKeys other member]

/-- The edited material has the key of the material in its place, if only a price was set. -/
theorem IsDistinct.key_put
    {catalog : Catalog}
    (distinct : catalog.IsDistinct)
    {material edited : Material}
    (member : material ∈ catalog.materials)
    (edit : edited = material ∨ material.Edited .price edited)
    {other : Material}
    (isOther : other ∈ catalog.materials) :
    (edited.put other).key = other.key := by
  rcases edit with rfl | edit
  · by_cases sameId : other.id = edited.id
    · rw [distinct.eq_of_id isOther member sameId, Material.put_self]
    · rw [Material.put_of_ne sameId]
  · by_cases sameId : other.id = edited.id
    · rw [Material.put, if_pos sameId, edit.key_eq,
        distinct.eq_of_id isOther member (sameId.trans edit.id_eq)]
    · rw [Material.put_of_ne sameId]

end Catalog

namespace Bill

/-- A bill completes exactly if all connections can be measured, and then it sums their lengths. -/
theorem of_eq_ok_iff
    {catalog : Catalog}
    {connections : List Connection}
    {points : List Point}
    {bill : Bill} :
    Bill.of catalog connections points = .ok bill ↔
      ∃ lengths, measured points connections = .ok lengths ∧
        bill.rows = catalog.materials.map (row catalog lengths) ∧
          bill.total = (bill.rows.map BillRow.cost).foldl Binary64.add 0 := by
  constructor
  · intro completes
    obtain ⟨lengths, measuredLengths, result⟩ := Attempt.bind_eq_ok_iff.mp completes
    obtain rfl := Except.ok.inj result
    exact ⟨lengths, measuredLengths, rfl, rfl⟩
  · rintro ⟨lengths, measuredLengths, rows, total⟩
    obtain ⟨billRows, billTotal⟩ := bill
    dsimp only at rows total
    rw [total, rows]
    exact Attempt.bind_eq_ok_iff.mpr ⟨lengths, measuredLengths, rfl⟩

/-- The row of a material when the edited one was put into its place. -/
theorem row_isolated
    {catalog later : Catalog}
    (distinct : catalog.IsDistinct)
    {material edited : Material}
    (member : material ∈ catalog.materials)
    {field : MaterialField}
    (edit : edited = material ∨ material.Edited field edited)
    (put : later.materials = catalog.materials.map edited.put)
    (lengths : List (MaterialKey × Binary64))
    {other : Material}
    (isOther : other ∈ catalog.materials) :
    (row catalog lengths other).Isolated field material edited
      (row later lengths (edited.put other)) := by
  have editedId : edited.id = material.id := by
    rcases edit with rfl | edit
    · rfl
    · exact edit.id_eq
  have priced (isPrice : field = .price) :
      (row later lengths (edited.put other)).length = (row catalog lengths other).length ∧
        (row later lengths (edited.put other)).isDuplicate =
          (row catalog lengths other).isDuplicate := by
    have edit : edited = material ∨ material.Edited .price edited := isPrice ▸ edit
    constructor
    · rw [row, row, distinct.key_put member edit isOther]
    · refine Catalog.isDuplicate_put put (Material.put_id edited other) fun third isThird => ?_
      rw [distinct.key_put member edit isThird, distinct.key_put member edit isOther]
  refine ⟨rfl, fun different => ?_, fun different notOld notNew => ?_, priced⟩
  · have stays : edited.put other = other := Material.put_of_ne (editedId ▸ different)
    rw [stays]
    exact ⟨rfl, rfl⟩
  · have stays : edited.put other = other := Material.put_of_ne (editedId ▸ different)
    rw [stays]
    refine Catalog.isDuplicate_put put rfl fun third isThird => ?_
    by_cases sameId : third.id = edited.id
    · -- neither the key that the material had nor the one that it was given is the key of the row
      have oldApart := (MaterialKey.agrees_comm material.key other.key).trans notOld
      have newApart := (MaterialKey.agrees_comm edited.key other.key).trans notNew
      rw [Material.put, if_pos sameId, distinct.eq_of_id isThird member (sameId.trans editedId),
        oldApart, newApart]
    · rw [Material.put_of_ne sameId]

/--
The bill after an edit of one field of a material.  It completes, its rows are those of the edited
catalog in the same places, each of them changed as far as `BillRow.Isolated` allows, and its total
is the sum of its costs from left to right, as it was before.
-/
theorem of_edit_isolated
    {catalog : Catalog}
    (distinct : catalog.IsDistinct)
    {connections : List Connection}
    {points : List Point}
    {bill : Bill}
    (completes : Bill.of catalog connections points = .ok bill)
    {material : Material}
    (member : material ∈ catalog.materials)
    (field : MaterialField)
    (value : Json) :
    let later := catalog.after (.edit material.id field.title value)
    ∃ laterBill edited,
      Bill.of later connections points = .ok laterBill ∧
        (edited = material ∨ material.Edited field edited) ∧
        later.materials = catalog.materials.map edited.put ∧
        bill.rows.map BillRow.material = catalog.materials ∧
        bill.rows.Forall₂ (BillRow.Isolated field material edited) laterBill.rows ∧
        bill.total = (bill.rows.map BillRow.cost).foldl Binary64.add 0 ∧
        laterBill.total = (laterBill.rows.map BillRow.cost).foldl Binary64.add 0 := by
  intro later
  obtain ⟨edited, edit, put⟩ := distinct.exists_edited member field value
  obtain ⟨lengths, measuredLengths, rows, total⟩ := of_eq_ok_iff.mp completes
  let laterRows := later.materials.map (row later lengths)
  let laterBill : Bill := { rows := laterRows, total := sum (laterRows.map BillRow.cost) }
  have laterCompletes : Bill.of later connections points = .ok laterBill :=
    of_eq_ok_iff.mpr ⟨lengths, measuredLengths, rfl, rfl⟩
  have isolated :
      (catalog.materials.map (row catalog lengths)).Forall₂
        (BillRow.Isolated field material edited) (later.materials.map (row later lengths)) := by
    rw [put, List.map_map, List.forall₂_map_left_iff, List.forall₂_map_right_iff,
      List.forall₂_same]
    exact fun other isOther => row_isolated distinct member edit put lengths isOther
  refine ⟨laterBill, edited, laterCompletes, edit, put, ?_, rows ▸ isolated, total, rfl⟩
  rw [rows, List.map_map]
  exact List.map_id' _

/-- A red, a blue and a green material. -/
def palette : Catalog where
  nextId := 4
  materials := [
    { id := "00000001", name := "Material 1", color := "red", thickness := 1, price := 3 },
    { id := "00000002", name := "Material 2", color := "blue", thickness := 1, price := 4 },
    { id := "00000003", name := "Material 3", color := "green", thickness := 1 }
  ]

/-- Red connections and a blue one, of which one ends at no known point. -/
def paletteConnections : List Connection :=
  [
    { fromId := 1, toId := 2, color := "#F00", thickness := 1 },
    { fromId := 2, toId := 1, color := "blue", thickness := 1 },
    { fromId := 2, toId := 9, color := "red", thickness := 1 }
  ]

/-- Two points at a distance of five. -/
def palettePoints : List Point :=
  [
    { id := 1, x := 0, y := 0, z := 0, color := "white" },
    { id := 2, x := 3, y := 4, z := 0, color := "white" }
  ]

/-- A blue material is made red: both red rows are marked now, and the green one is not. -/
theorem of_edit_isolated_red :
    ∃ bill laterBill blue edited,
      palette.get? "00000002" = some blue ∧
        Bill.of palette paletteConnections palettePoints = .ok bill ∧
        Bill.of (palette.after (.edit "00000002" "color" (.string " RED")))
          paletteConnections palettePoints = .ok laterBill ∧
        bill.rows.Forall₂ (BillRow.Isolated .color blue edited) laterBill.rows ∧
        bill.rows.map BillRow.isDuplicate = [false, false, false] ∧
        laterBill.rows.map BillRow.isDuplicate = [true, true, false] := by
  have distinct : palette.IsDistinct := by
    rw [Catalog.IsDistinct]
    decide
  have marks (catalog : Catalog) (bill : Bill)
      (completes : Bill.of catalog paletteConnections palettePoints = .ok bill) :
      bill.rows.map BillRow.isDuplicate = catalog.materials.map catalog.isDuplicate := by
    obtain ⟨lengths, -, rows, -⟩ := of_eq_ok_iff.mp completes
    rw [rows, List.map_map]
    rfl
  cases completes : Bill.of palette paletteConnections palettePoints with
  | error error =>
      have measures : (Bill.of palette paletteConnections palettePoints).toOption.isSome = true := by
        decide +kernel
      rw [completes] at measures
      exact Bool.noConfusion measures
  | ok bill =>
      obtain ⟨laterBill, edited, laterCompletes, -, -, -, isolated, -, -⟩ :=
        of_edit_isolated distinct completes
          (List.mem_cons_of_mem _ List.mem_cons_self) .color (.string " RED")
      refine ⟨bill, laterBill, _, edited, rfl, rfl, laterCompletes, isolated, ?_, ?_⟩
      · rw [marks palette bill completes]
        decide +kernel
      · rw [marks _ laterBill laterCompletes]
        decide +kernel

end Bill

end SceneEditor
