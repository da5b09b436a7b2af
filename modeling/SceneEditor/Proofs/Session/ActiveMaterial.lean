import SceneEditor.Proofs.Session.Building
import SceneEditor.Proofs.Session.Conservation

namespace SceneEditor

/-!
# The material that is shown as being built with

The material that is shown is found by the normalized color, the material that toggles off by the
color as it is written.  The two are one material as long as no material is edited.  After an edit
the material that is shown may write its color in another way than the one that was armed; selecting
it then arms it once more.
-/

namespace Catalog

/-- In a numbered catalog an id tells the material. -/
theorem IsNumbered.eq_of_sameId
    {catalog : Catalog}
    (numbered : catalog.IsNumbered)
    {first second : Material}
    (firstMember : first ∈ catalog.materials)
    (secondMember : second ∈ catalog.materials)
    (sameId : first.id = second.id) :
    first = second :=
  List.inj_on_of_nodup_map numbered.distinct firstMember secondMember sameId

theorem IsNumbered.get?_of_mem
    {catalog : Catalog}
    (numbered : catalog.IsNumbered)
    {material : Material}
    (member : material ∈ catalog.materials) :
    catalog.get? material.id = some material := by
  cases found : catalog.get? material.id with
  | none =>
      rw [get?, List.find?_eq_none] at found
      exact absurd (beq_self_eq_true material.id) (found material member)
  | some first =>
      have sameId : first.id = material.id := by
        simpa using List.find?_some found
      have firstMember := List.mem_of_find?_eq_some found
      rw [numbered.eq_of_sameId firstMember member sameId]

/-- A material that is no duplicate is found by exactly those keys that agree with its own. -/
theorem IsNumbered.findKey?_eq_some_iff
    {catalog : Catalog}
    (numbered : catalog.IsNumbered)
    {material : Material}
    (member : material ∈ catalog.materials)
    (single : catalog.isDuplicate material = false)
    {key : MaterialKey} :
    catalog.findKey? key = some material ↔ key.agrees material.key = true := by
  constructor
  · intro found
    rw [MaterialKey.agrees_comm]
    exact List.find?_some (p := fun material : Material => material.key.agrees key) found
  · intro agrees
    cases found : catalog.findKey? key with
    | none =>
        have apart := findKey?_eq_none_iff.mp found material member
        rw [MaterialKey.agrees_comm, agrees] at apart
        exact Bool.noConfusion apart
    | some first =>
        have firstMember := List.mem_of_find?_eq_some found
        have firstAgrees : first.key.agrees key = true := by
          simpa using List.find?_some found
        have sameKey := MaterialKey.agrees_trans firstAgrees agrees
        have sameId : first.id = material.id := by
          by_contra different
          have duplicate := isDuplicate_iff.mpr ⟨first, firstMember, different, sameKey⟩
          rw [single] at duplicate
          exact Bool.noConfusion duplicate
        rw [numbered.eq_of_sameId firstMember member sameId]

/-- The colors and the thicknesses of the materials, as they are written. -/
def kinds (catalog : Catalog) : List (String × Num) :=
  catalog.materials.map fun material => (material.color, material.thickness)

/-- The kinds are the written colors and thicknesses of the materials. -/
theorem mem_kinds_iff
    {catalog : Catalog}
    {kind : String × Num} :
    kind ∈ catalog.kinds ↔
      ∃ material ∈ catalog.materials, (material.color, material.thickness) = kind :=
  List.mem_map

/-- Keys differ exactly if those of all kinds do. -/
theorem keysDiffer_iff
    {catalog : Catalog} :
    catalog.KeysDiffer ↔
      catalog.kinds.Pairwise fun first second =>
        (MaterialKey.of first.1 first.2).agrees (.of second.1 second.2) = false := by
  rw [kinds, List.pairwise_map]
  rfl

/-- An edit of neither color nor thickness keeps what the materials are to the server. -/
theorem kinds_update
    {catalog later : Catalog}
    {id fieldName : String}
    (notColor : fieldName ≠ "color")
    (notThickness : fieldName ≠ "thickness")
    {value : Json}
    {changed : Bool}
    (edited : catalog.update id fieldName value = .ok (later, changed)) :
    later.kinds = catalog.kinds := by
  rcases update_cases edited with rfl | ⟨field, change, named, edit, rfl⟩
  · rfl
  · have title := MaterialField.title_of_ofName? named
    refine catalog.map_modify id fun material => ?_
    apply (change?_edits edit material).kind_eq
    · rintro rfl
      exact notColor title
    · rintro rfl
      exact notThickness title

end Catalog

namespace Session

/-- The color that is armed, as it is written. -/
def armedColor? (session : Session) : Option String :=
  session.build.armed?.map Prod.fst

/--
A material is shown if its key is the one that is armed, and it is the one that toggles off if it is
shown and writes its color as the armed color is written.  If it is shown but writes its color in
another way, it is armed once more when it is selected.
-/
structure TogglesAsWritten (session : Session) (material : Material) : Prop where
  shown :
    session.activeMaterial? = some material ↔
      ∃ color thickness,
        session.build.armed? = some (color, thickness) ∧
          (MaterialKey.of color thickness).agrees material.key = true
  active :
    session.build.isActive material = true ↔
      session.activeMaterial? = some material ∧ session.armedColor? = some material.color
  disarms :
    session.activeMaterial? = some material →
      session.armedColor? = some material.color →
        session.selectBuild material.id = { result := false, session := session.disarm }
  rearms :
    session.activeMaterial? = some material →
      session.armedColor? ≠ some material.color →
        session.selectBuild material.id = {
          result := true
          session := {
            session with
            build := { armed? := some (material.color, material.thickness) }
          }
        }

/-- A material that is no duplicate is the active one exactly if its key is armed. -/
theorem activeMaterial?_eq_some_iff
    {session : Session}
    (numbered : session.catalog.IsNumbered)
    {material : Material}
    (member : material ∈ session.catalog.materials)
    (single : session.catalog.isDuplicate material = false) :
    session.activeMaterial? = some material ↔
      ∃ color thickness,
        session.build.armed? = some (color, thickness) ∧
          (MaterialKey.of color thickness).agrees material.key = true := by
  rw [activeMaterial?, BuildMode.activeMaterial?, Option.bind_eq_some_iff]
  simp only [Prod.exists, numbered.findKey?_eq_some_iff member single]

theorem isActive_iff
    {session : Session}
    (numbered : session.catalog.IsNumbered)
    {material : Material}
    (member : material ∈ session.catalog.materials)
    (single : session.catalog.isDuplicate material = false) :
    session.build.isActive material = true ↔
      session.activeMaterial? = some material ∧ session.armedColor? = some material.color := by
  rw [BuildMode.isActive_iff, activeMaterial?_eq_some_iff numbered member single]
  constructor
  · rintro ⟨thickness, armed, agrees⟩
    have sameKey : (MaterialKey.of material.color thickness).agrees material.key = true :=
      MaterialKey.agrees_iff.mpr ⟨rfl, agrees⟩
    exact ⟨⟨_, thickness, armed, sameKey⟩, congrArg (Option.map Prod.fst) armed⟩
  · rintro ⟨⟨color, thickness, armed, agrees⟩, written⟩
    rw [armedColor?, armed] at written
    obtain rfl : color = material.color := Option.some.inj written
    exact ⟨thickness, armed, (MaterialKey.agrees_iff.mp agrees).2⟩

/-- Selecting a material that is no duplicate disarms it if it is active, and arms it otherwise. -/
theorem selectBuild_of_single
    {session : Session}
    (numbered : session.catalog.IsNumbered)
    {material : Material}
    (member : material ∈ session.catalog.materials)
    (single : session.catalog.isDuplicate material = false) :
    session.selectBuild material.id =
      if session.build.isActive material then { result := false, session := session.disarm }
      else {
        result := true
        session := {
          session with
          build := { armed? := some (material.color, material.thickness) }
        }
      } := by
  simp only [selectBuild, numbered.get?_of_mem member, BuildMode.toggle, single]
  cases session.build.isActive material <;> rfl

/-- A material is toggled by its color as it is written. -/
theorem togglesAsWritten
    {session : Session}
    (numbered : session.catalog.IsNumbered)
    {material : Material}
    (member : material ∈ session.catalog.materials)
    (single : session.catalog.isDuplicate material = false) :
    session.TogglesAsWritten material where
  shown := activeMaterial?_eq_some_iff numbered member single
  active := isActive_iff numbered member single
  disarms := by
    intro shown written
    have active := (isActive_iff numbered member single).mpr ⟨shown, written⟩
    rw [selectBuild_of_single numbered member single, if_pos active]
  rearms := by
    intro shown otherwise
    have inactive : ¬ session.build.isActive material = true := by
      intro active
      exact otherwise ((isActive_iff numbered member single).mp active).2
    rw [selectBuild_of_single numbered member single, if_neg inactive]

/-!
## Runs without edits of colors and thicknesses
-/

/-- The keys of the catalog differ, and what is armed is the color and the thickness of a material. -/
structure ArmsKnown (session : Session) : Prop where
  differ : session.catalog.KeysDiffer
  known : ∀ kind, session.build.armed? = some kind → kind ∈ session.catalog.kinds

/-- The action edits a color or a thickness. -/
def Action.editsKind : Action → Bool
  | .updateMaterial _ field _ => field == "color" || field == "thickness"
  | _ => false

/-- The action arms a material that need not be one of the catalog. -/
def Action.armsAny : Action → Bool
  | .toggleBuild _ => true
  | _ => false

/-- Without such an edit the keys go on to differ, and no color and no thickness is lost. -/
theorem Step.keepsKinds
    {session later : Session}
    {action : Action}
    (step : Step session action later)
    (noEdit : action.editsKind = false)
    (differ : session.catalog.KeysDiffer) :
    later.catalog.KeysDiffer ∧ session.catalog.kinds ⊆ later.catalog.kinds := by
  cases step with
  | quiet still kept =>
      rw [kept.catalog]
      exact ⟨differ, List.Subset.refl _⟩
  | @merged _ snapshot held =>
      cases changed :
          connectionsAgree (session.merged snapshot).world.connections
            session.world.connections with
      | true =>
          rw [merged_catalog_of_unchanged changed]
          exact ⟨differ, List.Subset.refl _⟩
      | false =>
          rw [merged_catalog_of_changed changed]
          refine ⟨differ.noteConnections _, List.map_subset _ ?_⟩
          intro material member
          exact Catalog.mem_noteConnections member _
  | dropped refused =>
      exact ⟨differ, List.Subset.refl _⟩
  | sought target =>
      exact ⟨differ, List.Subset.refl _⟩
  | added =>
      refine ⟨differ.push session.catalog.findKey?_freeThickness, List.map_subset _ ?_⟩
      intro material member
      exact Catalog.mem_push member Color.white (.int session.catalog.freeThickness)
  | edited edit =>
      simp only [Action.editsKind, Bool.or_eq_false_iff, beq_eq_false_iff_ne] at noEdit
      have same := Catalog.kinds_update noEdit.1 noEdit.2 edit
      rw [Catalog.keysDiffer_iff, same, ← Catalog.keysDiffer_iff]
      exact ⟨differ, List.Subset.refl _⟩

/-- Only a material of the catalog is toggled, unless it is given by itself. -/
theorem building?_eq_toggle
    {session : Session}
    {action : Action}
    (notAny : action.armsAny = false)
    {catalog : Catalog}
    {material : Material}
    (toggles : action.building? session = some (.toggle catalog material)) :
    material ∈ session.catalog.materials := by
  cases action with
  | toggleBuild material =>
      exact Bool.noConfusion notAny
  | selectBuild id =>
      obtain ⟨found, isFound, same⟩ := Option.map_eq_some_iff.mp toggles
      obtain ⟨-, rfl⟩ := BuildMode.Action.toggle.inj same
      exact List.mem_of_find?_eq_some isFound
  | press key control focused =>
      rw [Action.building?] at toggles
      split at toggles <;> exact absurd toggles (by simp)
  | _ =>
      exact absurd toggles (by simp [Action.building?])

/-- What is armed stays known, unless the color or the thickness of a material is edited or a
material from outside is armed. -/
theorem ArmsKnown.after
    {session : Session}
    (armsKnown : session.ArmsKnown)
    {action : Action}
    (noEdit : action.editsKind = false)
    (notAny : action.armsAny = false) :
    (session.after action).ArmsKnown := by
  obtain ⟨differ, stay⟩ := (session.step_after action).keepsKinds noEdit armsKnown.differ
  refine ⟨differ, ?_⟩
  intro kind armed
  rw [after_build, builtBy] at armed
  cases done : action.building? session with
  | none =>
      rw [done] at armed
      exact stay (armsKnown.known kind armed)
  | some building =>
      rw [done, Option.map_some, Option.getD_some] at armed
      rcases session.build.act_armed? building with
        same | nothing | ⟨catalog, material, rfl, toggled⟩
      · exact stay (armsKnown.known kind (same.symm.trans armed))
      · rw [nothing] at armed
        exact absurd armed (by simp)
      · have member := building?_eq_toggle notAny done
        rw [toggled] at armed
        exact stay (Catalog.mem_kinds_iff.mpr ⟨material, member, Option.some.inj armed⟩)

/-- Without such edits, the one material that is active is the one that is shown. -/
theorem ArmsKnown.isActive_iff
    {session : Session}
    (armsKnown : session.ArmsKnown)
    (numbered : session.catalog.IsNumbered)
    {material : Material}
    (member : material ∈ session.catalog.materials) :
    session.build.isActive material = true ↔ session.activeMaterial? = some material := by
  have single := armsKnown.differ.isDuplicate_eq_false member
  rw [Session.isActive_iff numbered member single, and_iff_left_iff_imp]
  intro shown
  obtain ⟨color, thickness, armed, agrees⟩ :=
    (activeMaterial?_eq_some_iff numbered member single).mp shown
  obtain ⟨source, sourceMember, isSource⟩ :=
    Catalog.mem_kinds_iff.mp (armsKnown.known _ armed)
  obtain ⟨rfl, rfl⟩ := Prod.mk.inj isSource
  rw [← armsKnown.differ.eq_of_agrees sourceMember member agrees, armedColor?, armed]
  rfl

/-- What is armed is known in any session from the start in which neither is done. -/
theorem armsKnown_run
    (answer? : Option Bool)
    (settings : TimelineSettings)
    {actions : List Action}
    (noEdits : ∀ action ∈ actions, action.editsKind = false ∧ action.armsAny = false) :
    ((fresh answer? settings).run actions).ArmsKnown := by
  have atStart : (fresh answer? settings).ArmsKnown := by
    refine ⟨List.Pairwise.nil, ?_⟩
    intro kind armed
    exact absurd armed (by simp [fresh])
  have kept
      (session : Session)
      (action : Action)
      (member : action ∈ actions)
      (armsKnown : session.ArmsKnown) :
      (session.after action).ArmsKnown :=
    armsKnown.after (noEdits action member).1 (noEdits action member).2
  exact run_induction kept atStart

/--
After any run, a material that is no duplicate toggles off if it is the one that is shown and its color
is written as it was armed, and it is armed once more if it is shown and its color is written in another
way.  As long as no color and no thickness is edited and only materials of the catalog are armed, the
material that is shown is the one that is active, and selecting it disarms.
-/
theorem run_togglesAsWritten
    (answer? : Option Bool)
    (settings : TimelineSettings)
    (actions : List Action) :
    let session := (fresh answer? settings).run actions
    (∀ material ∈ session.catalog.materials,
      session.catalog.isDuplicate material = false → session.TogglesAsWritten material) ∧
      ((∀ action ∈ actions, action.editsKind = false ∧ action.armsAny = false) →
        ∀ material ∈ session.catalog.materials,
          (session.build.isActive material = true ↔ session.activeMaterial? = some material) ∧
            (session.activeMaterial? = some material →
              session.selectBuild material.id =
                { result := false, session := session.disarm })) := by
  intro session
  have numbered : session.catalog.IsNumbered := isNumbered_run answer? settings actions
  refine ⟨fun material member single => togglesAsWritten numbered member single, ?_⟩
  intro noEdits material member
  have armsKnown := armsKnown_run answer? settings noEdits
  have single := armsKnown.differ.isDuplicate_eq_false member
  have active := armsKnown.isActive_iff numbered member
  refine ⟨active, ?_⟩
  intro shown
  rw [selectBuild_of_single numbered member single, if_pos (active.mpr shown)]

/-- A material is added, priced and armed, and selecting it once more disarms it. -/
theorem run_togglesAsWritten_priced :
    let actions : List Action :=
      [.addMaterial, .updateMaterial "00000001" "price" (.string "2.5"), .selectBuild "00000001"]
    let session := (fresh none {}).run actions
    ∃ material ∈ session.catalog.materials,
      session.catalog.isDuplicate material = false ∧
        session.TogglesAsWritten material ∧
        (∀ action ∈ actions, action.editsKind = false ∧ action.armsAny = false) ∧
        session.activeMaterial? = some material ∧
        session.build.isActive material = true ∧
        (session.selectBuild material.id).result = false := by
  intro actions session
  let material : Material := {
    id := "00000001", name := "Material 1", color := "#ffffff", thickness := .int 2
    price := .ofDecimal false 25 (-1)
  }
  have member : material ∈ session.catalog.materials := by
    decide +kernel
  have single : session.catalog.isDuplicate material = false := by
    decide +kernel
  have noEdits : ∀ action ∈ actions, action.editsKind = false ∧ action.armsAny = false := by
    decide
  have shown : session.activeMaterial? = some material := by
    decide +kernel
  obtain ⟨asWritten, unedited⟩ := run_togglesAsWritten none {} actions
  obtain ⟨active, disarms⟩ := unedited noEdits material member
  exact ⟨material, member, single, asWritten material member single, noEdits, shown,
    active.mpr shown, congrArg Outcome.result (disarms shown)⟩

/-- The color of the armed material is written in another way, and selecting the material arms it again. -/
theorem run_armsAgain :
    let session :=
      (fresh none {}).run
        [.addMaterial, .selectBuild "00000001",
          .updateMaterial "00000001" "color" (.string "white")]
    ∃ material ∈ session.catalog.materials,
      session.catalog.isDuplicate material = false ∧
        session.activeMaterial? = some material ∧
        session.build.isActive material = false ∧
        (session.selectBuild material.id).result = true ∧
        (session.selectBuild material.id).session.build.isArmed = true := by
  intro session
  refine ⟨{ id := "00000001", name := "Material 1", color := "white", thickness := .int 2 }, ?_⟩
  decide +kernel

end Session

end SceneEditor
