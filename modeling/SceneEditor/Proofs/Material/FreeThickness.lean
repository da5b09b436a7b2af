import Mathlib.Data.List.Perm.Subperm
import Mathlib.Order.Bounds.Defs
import Mathlib.Tactic.Choose
import SceneEditor.Proofs.Material.Catalog

namespace SceneEditor.Catalog

/-!
# A free thickness

A material that is added is white and of the smallest thickness from two on that no white material has.
It is found by testing one integer after another.  A material can stand in the way of one integer only,
so that one test more than there are materials is enough.  What is found is the key of no other
material: the added material is no duplicate, and makes none.
-/

/-- A white material is exactly as thick as the integer. -/
def HasWhite (catalog : Catalog) (thickness : Int) : Prop :=
  ∃ material ∈ catalog.materials,
    Color.normalize material.color = Color.white ∧
      material.thickness.equals (.int thickness) = true

instance (catalog : Catalog) (thickness : Int) : Decidable (catalog.HasWhite thickness) :=
  inferInstanceAs (Decidable (∃ material ∈ catalog.materials,
    Color.normalize material.color = Color.white ∧
      material.thickness.equals (.int thickness) = true))

/-- Testing one integer after another from the first on, so many times, ends at the last one. -/
inductive Finds (catalog : Catalog) : Int → Nat → Int → Prop where
  | free {thickness : Int} (absent : catalog.find? Color.white (.int thickness) = none) :
      Finds catalog thickness 1 thickness
  | taken
      {thickness : Int}
      {tests : Nat}
      {found : Int}
      (held : (catalog.find? Color.white (.int thickness)).isSome)
      (later : Finds catalog (thickness + 1) tests found) :
      Finds catalog thickness (tests + 1) found

/-!
## White materials
-/

/-- An integer thickness is found by its key. -/
theorem find?_int
    (catalog : Catalog)
    (color : String)
    (thickness : Int) :
    catalog.find? color (.int thickness) = catalog.findKey? (.of color (.int thickness)) :=
  rfl

/-- A key agrees with white of a thickness exactly in the color and the value. -/
theorem agrees_white_iff
    {material : Material}
    {thickness : Int} :
    material.key.agrees (.of Color.white (.int thickness)) = true ↔
      Color.normalize material.color = Color.white ∧
        material.thickness.equals (.int thickness) = true := by
  have white : Color.normalize Color.white = Color.white := by
    decide +kernel
  simp [MaterialKey.agrees_iff, Material.key, MaterialKey.of, white, Num.agrees, Num.isNan]

/-- White of a thickness is not found exactly if the catalog has none. -/
theorem findKey?_white_eq_none_iff
    {catalog : Catalog}
    {thickness : Int} :
    catalog.findKey? (.of Color.white (.int thickness)) = none ↔ ¬ catalog.HasWhite thickness := by
  simp only [findKey?_eq_none_iff, HasWhite, ← agrees_white_iff, not_exists, not_and,
    Bool.not_eq_true]

/-- Of one more integer than there are materials, one is the thickness of no white material. -/
theorem exists_not_hasWhite (catalog : Catalog) :
    ∃ extra < catalog.size + 1, ¬ catalog.HasWhite ((extra + 2 : Nat) : Int) := by
  by_contra allTaken
  have taken : ∀ extra : Nat, extra < catalog.size + 1 →
      ∃ material ∈ catalog.materials,
        material.key.agrees (.of Color.white (.int ((extra + 2 : Nat) : Int))) = true := by
    intro extra within
    by_contra untaken
    refine allTaken ⟨extra, within, ?_⟩
    simpa only [HasWhite, ← agrees_white_iff] using untaken
  obtain ⟨anyMaterial, -⟩ := taken 0 (Nat.succ_pos _)
  have inhabited : Nonempty Material := ⟨anyMaterial⟩
  choose! holder known agrees using taken
  -- one material cannot hold two thicknesses, so there would be more holders than materials
  have distinct : ((List.range (catalog.size + 1)).map holder).Nodup := by
    apply List.Nodup.map_on _ List.nodup_range
    intro first firstWithin second secondWithin same
    have firstAgrees := agrees first (List.mem_range.mp firstWithin)
    have secondAgrees := agrees second (List.mem_range.mp secondWithin)
    rw [same] at firstAgrees
    have bothAgree := MaterialKey.agrees_trans (MaterialKey.agrees_symm firstAgrees) secondAgrees
    have sameThickness := Num.int_agrees_int_iff.mp (MaterialKey.agrees_iff.mp bothAgree).2
    omega
  have inCatalog : (List.range (catalog.size + 1)).map holder ⊆ catalog.materials := by
    intro material member
    obtain ⟨extra, within, rfl⟩ := List.mem_map.mp member
    exact known extra (List.mem_range.mp within)
  have bounded := (distinct.subperm inCatalog).length_le
  rw [List.length_map, List.length_range] at bounded
  exact Nat.not_succ_le_self _ bounded

/-- The free thickness is the first one of which there is no white material, and not far from two. -/
theorem exists_freeThickness_eq (catalog : Catalog) :
    ∃ extra < catalog.size + 1,
      catalog.freeThickness = ((extra + 2 : Nat) : Int) ∧
        ¬ catalog.HasWhite ((extra + 2 : Nat) : Int) ∧
        ∀ earlier < extra, catalog.HasWhite ((earlier + 2 : Nat) : Int) := by
  have isFree (extra : Nat) :
      (catalog.findKey? (.of Color.white (.int ((extra + 2 : Nat) : Int)))).isNone = true ↔
        ¬ catalog.HasWhite ((extra + 2 : Nat) : Int) := by
    rw [Option.isNone_iff_eq_none, findKey?_white_eq_none_iff]
  rw [freeThickness, List.find?_map]
  cases found : (List.range (catalog.size + 1)).find?
      ((fun thickness => (catalog.findKey? (.of Color.white (.int thickness))).isNone) ∘
        fun extra : Nat => ((extra + 2 : Nat) : Int)) with
  | none =>
      obtain ⟨extra, within, free⟩ := catalog.exists_not_hasWhite
      have held := List.find?_eq_none.mp found extra (List.mem_range.mpr within)
      exact absurd ((isFree extra).mpr free) held
  | some extra =>
      obtain ⟨free, within, earlierHeld⟩ := List.find?_range_eq_some.mp found
      refine ⟨extra, List.mem_range.mp within, rfl, (isFree extra).mp free, ?_⟩
      intro earlier before
      by_contra free
      have held := earlierHeld earlier before
      rw [Function.comp_apply, (isFree earlier).mpr free] at held
      exact Bool.noConfusion held

/-- The thickness that is taken for free is free. -/
theorem findKey?_freeThickness (catalog : Catalog) :
    catalog.findKey? (.of Color.white (.int catalog.freeThickness)) = none := by
  obtain ⟨extra, -, isFree, free, -⟩ := catalog.exists_freeThickness_eq
  rw [isFree]
  exact findKey?_white_eq_none_iff.mpr free

/-- The free thickness is not far above the number of materials. -/
theorem freeThickness_le (catalog : Catalog) :
    catalog.freeThickness.natAbs ≤ catalog.size + 3 := by
  obtain ⟨extra, within, isFree, -⟩ := catalog.exists_freeThickness_eq
  omega

/-!
## The search
-/

/-- The search ends at the first integer that is free, when all before it are taken. -/
theorem finds_of_taken
    {catalog : Catalog}
    {start : Int}
    {extra : Nat}
    (free : ¬ catalog.HasWhite (start + extra))
    (taken : ∀ earlier : Nat, earlier < extra → catalog.HasWhite (start + earlier)) :
    catalog.Finds start (extra + 1) (start + extra) := by
  induction extra generalizing start with
  | zero =>
      rw [Int.natCast_zero, Int.add_zero] at free ⊢
      exact .free (findKey?_white_eq_none_iff.mpr free)
  | succ extra inductionHypothesis =>
      have shifted (count : Nat) : start + ((count + 1 : Nat) : Int) = start + 1 + count := by
        omega
      rw [shifted] at free ⊢
      refine .taken ?_ (inductionHypothesis free fun earlier before => ?_)
      · have held := taken 0 (Nat.succ_pos extra)
        rw [Int.natCast_zero, Int.add_zero] at held
        rw [find?_int, Option.isSome_iff_ne_none, ne_eq, findKey?_white_eq_none_iff]
        exact not_not_intro held
      · rw [← shifted]
        exact taken (earlier + 1) (Nat.succ_lt_succ before)

/-- The search has one course. -/
theorem Finds.unique
    {catalog : Catalog}
    {start found other : Int}
    {tests otherTests : Nat}
    (finds : catalog.Finds start tests found)
    (findsOther : catalog.Finds start otherTests other) :
    otherTests = tests ∧ other = found := by
  induction finds generalizing otherTests with
  | free absent =>
      cases findsOther with
      | free =>
          exact ⟨rfl, rfl⟩
      | taken held later =>
          rw [absent] at held
          exact Bool.noConfusion held
  | taken held later inductionHypothesis =>
      cases findsOther with
      | free absent =>
          rw [absent] at held
          exact Bool.noConfusion held
      | taken _ laterOther =>
          obtain ⟨sameTests, same⟩ := inductionHypothesis laterOther
          exact ⟨congrArg (· + 1) sameTests, same⟩

/-!
## Duplicates
-/

/-- A material of a key that no other material has is no duplicate and makes none. -/
theorem isDuplicate_push
    {catalog : Catalog}
    {color : String}
    {thickness : Num}
    (absent : catalog.findKey? (.of color thickness) = none) :
    let (later, added) := catalog.push color thickness
    later.isDuplicate added = false ∧
      ∀ material ∈ catalog.materials,
        later.isDuplicate material = catalog.isDuplicate material := by
  have differs := findKey?_eq_none_iff.mp absent
  constructor
  · rw [isDuplicate, List.any_eq_false]
    intro other member
    rcases List.mem_append.mp member with earlier | added
    · have key := differs other earlier
      simp only [Bool.and_eq_true, not_and, Bool.not_eq_true]
      exact fun _ => key
    · obtain rfl := List.mem_singleton.mp added
      simp
  · intro material member
    have key := differs material member
    rw [MaterialKey.agrees_comm] at key
    rw [isDuplicate, isDuplicate, List.any_append, List.any_cons, List.any_nil, Bool.or_false,
      Bool.or_eq_left_iff_imp]
    intro marked
    have agrees := (Bool.and_eq_true_iff.mp marked).2
    exact absurd (agrees.symm.trans key) (by simp)

/--
Adding a material searches from two on, with one test more than there are materials at most, and ends at
the least integer that is the thickness of no white material.  The added material is white, has this
thickness and stands behind the others; it is no duplicate, and the others are duplicates or none
as they were.
-/
theorem addMaterial_takesLeast (catalog : Catalog) :
    ∃ thickness tests,
      catalog.Finds 2 tests thickness ∧
        tests ≤ catalog.size + 1 ∧
        (∀ otherTests other, catalog.Finds 2 otherTests other →
          otherTests = tests ∧ other = thickness) ∧
        IsLeast {integer | 2 ≤ integer ∧ ¬ catalog.HasWhite integer} thickness ∧
        catalog.addMaterial.2 =
          {
            id := identifier catalog.nextId
            name := "Material " ++ toString (catalog.size + 1)
            color := Color.white
            thickness := .int thickness
          } ∧
        catalog.addMaterial.1.materials = catalog.materials ++ [catalog.addMaterial.2] ∧
        catalog.addMaterial.1.isDuplicate catalog.addMaterial.2 = false ∧
        ∀ material ∈ catalog.materials,
          catalog.addMaterial.1.isDuplicate material = catalog.isDuplicate material := by
  obtain ⟨extra, within, isFree, free, taken⟩ := catalog.exists_freeThickness_eq
  have offset (count : Nat) : ((count + 2 : Nat) : Int) = 2 + count := by
    omega
  simp only [offset] at isFree free taken
  have finds := finds_of_taken free taken
  obtain ⟨unmarked, kept⟩ := isDuplicate_push catalog.findKey?_freeThickness
  refine ⟨2 + extra, extra + 1, finds, within, fun _ _ => finds.unique, ⟨⟨?_, free⟩, ?_⟩, ?_, rfl,
    unmarked, kept⟩
  · omega
  · rintro integer ⟨fromTwo, integerFree⟩
    by_contra below
    obtain ⟨earlier, rfl⟩ := Int.le.dest fromTwo
    exact integerFree (taken earlier (by omega))
  · rw [addMaterial, isFree]
    rfl

/-- White materials of several kinds, and a red one. -/
def mixedCatalog : Catalog where
  nextId := 6
  materials := [
    { id := "a", name := "A", color := "#FFF", thickness := .real 2 },
    { id := "b", name := "B", color := " White ", thickness := .int 3 },
    { id := "c", name := "C", color := "", thickness := .real (Binary64.ofDecimal false 35 (-1)) },
    { id := "d", name := "D", color := "red", thickness := .int 4 },
    { id := "e", name := "E", color := "white", thickness := .real .nan }
  ]

/-- Two is taken by a real number and three by another name of the color; four is free. -/
theorem addMaterial_takesLeast_four :
    mixedCatalog.Finds 2 3 4 ∧ mixedCatalog.addMaterial.2.thickness = .int 4 ∧
      ∀ material ∈ mixedCatalog.materials,
        mixedCatalog.addMaterial.1.isDuplicate material = false := by
  obtain ⟨thickness, tests, finds, -, unique, -, added, -, -, kept⟩ :=
    mixedCatalog.addMaterial_takesLeast
  have taken : ∀ earlier : Nat, earlier < 2 → mixedCatalog.HasWhite (2 + earlier) := by
    decide +kernel
  have free : ¬ mixedCatalog.HasWhite (2 + (2 : Nat)) := by
    decide +kernel
  have unmarked : ∀ material ∈ mixedCatalog.materials,
      mixedCatalog.isDuplicate material = false := by
    decide +kernel
  obtain ⟨rfl, rfl⟩ := unique _ _ (finds_of_taken free taken)
  refine ⟨finds, ?_, ?_⟩
  · rw [added]
    rfl
  · intro material member
    rw [kept material member]
    exact unmarked material member

end SceneEditor.Catalog
