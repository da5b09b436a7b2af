import Mathlib.Data.List.Induction
import SceneEditor.Proofs.Material.FreeThickness
import SceneEditor.Proofs.Text.Blank
import SceneEditor.Proofs.Text.Cut
import SceneEditor.Proofs.Text.LetterCase

namespace SceneEditor

/-!
# The catalog as it is derived

Taking note of connections puts a material behind the others for every key that none of them has.  What
is put there is told by the connections alone: those that are the first of their key.  Nothing that
happens to a catalog removes a material or moves it, and an edit sets one field of one material.  So a
material keeps the name by its place until it is given another one, and is found by it.
-/

/-- What happens to a catalog. -/
inductive CatalogAction where
  | note (connections : List Connection)
  | add
  | edit (id fieldName : String) (value : Json)
  deriving Repr

/-- The action sets names. -/
def CatalogAction.renames : CatalogAction → Bool
  | edit _ fieldName _ => fieldName == MaterialField.name.title
  | _ => false

namespace Catalog

/-- The connections that bring a new key: no material has it, nor has a connection before them. -/
def newcomers (catalog : Catalog) (earlier : List Connection) : List Connection → List Connection
  | [] => []
  | connection :: rest =>
      let later := catalog.newcomers (earlier ++ [connection]) rest
      if (catalog.findKey? connection.key).isNone
          && earlier.all fun other => !other.key.agrees connection.key then
        connection :: later
      else later

/-- The name of the material that stands at a place. -/
def placeName (place : Nat) : String :=
  "Material " ++ toString (place + 1)

/-- The material of a connection that is put behind the materials and so many others. -/
def materialOf (catalog : Catalog) (others : Nat) (connection : Connection) : Material where
  id := identifier (catalog.nextId + others)
  name := placeName (catalog.size + others)
  color := connection.color
  thickness := .real connection.thickness

/-- The materials that the connections bring. -/
def brought (catalog : Catalog) (connections : List Connection) : List Material :=
  (catalog.newcomers [] connections).mapIdx catalog.materialOf

/-- What taking note of connections makes of the catalog. -/
structure Derives (catalog : Catalog) (connections : List Connection) : Prop where
  appended :
    (catalog.noteConnections connections).materials =
      catalog.materials ++ catalog.brought connections
  unknown : ∀ material ∈ catalog.brought connections, catalog.findKey? material.key = none
  once :
    ∀ connection ∈ connections, catalog.findKey? connection.key = none →
      ((catalog.brought connections).filter fun material =>
        material.key.agrees connection.key).length = 1
  found :
    ∀ connection ∈ connections,
      ((catalog.noteConnections connections).findKey? connection.key).isSome
  settled :
    (catalog.noteConnections connections).noteConnections connections =
      catalog.noteConnections connections
  joined :
    ∀ more, catalog.noteConnections (connections ++ more) =
      (catalog.noteConnections connections).noteConnections more

/-!
## What connections bring
-/

/-- The newcomers of a longer list are those of its parts, one behind the other. -/
theorem newcomers_append
    (catalog : Catalog)
    (earlier connections more : List Connection) :
    catalog.newcomers earlier (connections ++ more) =
      catalog.newcomers earlier connections ++ catalog.newcomers (earlier ++ connections) more := by
  induction connections generalizing earlier with
  | nil =>
      rw [List.append_nil]
      rfl
  | cons connection rest inductionHypothesis =>
      have later := inductionHypothesis (earlier ++ [connection])
      rw [List.append_assoc, List.singleton_append] at later
      rw [List.cons_append, newcomers, newcomers, later]
      split
      · rfl
      · rfl

/-- A connection that brings a key is the first of it. -/
theorem mem_newcomers
    {catalog : Catalog}
    {earlier connections : List Connection}
    {connection : Connection}
    (member : connection ∈ catalog.newcomers earlier connections) :
    connection ∈ connections ∧ catalog.findKey? connection.key = none ∧
      ∀ other ∈ earlier, other.key.agrees connection.key = false := by
  induction connections generalizing earlier with
  | nil =>
      exact absurd member List.not_mem_nil
  | cons first rest inductionHypothesis =>
      rw [newcomers] at member
      have fromRest (inRest : connection ∈ catalog.newcomers (earlier ++ [first]) rest) :
          connection ∈ first :: rest ∧ catalog.findKey? connection.key = none ∧
            ∀ other ∈ earlier, other.key.agrees connection.key = false := by
        obtain ⟨isMember, unknown, differs⟩ := inductionHypothesis inRest
        exact ⟨List.mem_cons_of_mem first isMember, unknown, fun other before =>
          differs other (List.mem_append_left _ before)⟩
      split at member
      · next isNew =>
        rcases List.mem_cons.mp member with rfl | inRest
        · simp only [Bool.and_eq_true, Option.isNone_iff_eq_none, List.all_eq_true,
            Bool.not_eq_true'] at isNew
          exact ⟨List.mem_cons_self, isNew⟩
        · exact fromRest inRest
      · exact fromRest member

/-- No two newcomers share a key. -/
theorem newcomers_differ
    (catalog : Catalog)
    (earlier connections : List Connection) :
    (catalog.newcomers earlier connections).Pairwise fun first second =>
      first.key.agrees second.key = false := by
  induction connections generalizing earlier with
  | nil =>
      exact List.Pairwise.nil
  | cons connection rest inductionHypothesis =>
      rw [newcomers]
      split
      · refine List.pairwise_cons.mpr ⟨?_, inductionHypothesis _⟩
        intro other member
        obtain ⟨-, -, differs⟩ := mem_newcomers member
        exact differs connection (List.mem_append_right _ List.mem_cons_self)
      · exact inductionHypothesis _

/-- The keys of the materials that are brought are those of the connections that bring them. -/
theorem keys_brought
    (catalog : Catalog)
    (connections : List Connection) :
    (catalog.brought connections).map Material.key =
      (catalog.newcomers [] connections).map Connection.key := by
  apply List.ext_getElem
  · simp [brought]
  · intro place within _
    simp only [brought, List.getElem_map, List.getElem_mapIdx]
    rfl

/-- A material that was brought has the key of a newcomer. -/
theorem mem_brought
    {catalog : Catalog}
    {connections : List Connection}
    {material : Material}
    (member : material ∈ catalog.brought connections) :
    ∃ connection ∈ catalog.newcomers [] connections, connection.key = material.key := by
  have inKeys : material.key ∈ (catalog.brought connections).map Material.key :=
    List.mem_map_of_mem member
  rw [keys_brought] at inKeys
  exact List.mem_map.mp inKeys

/-- No two materials that were brought share a key. -/
theorem brought_differ
    (catalog : Catalog)
    (connections : List Connection) :
    (catalog.brought connections).Pairwise fun first second =>
      first.key.agrees second.key = false := by
  have keysDiffer :
      ((catalog.brought connections).map Material.key).Pairwise fun first second =>
        first.agrees second = false := by
    rw [keys_brought, List.pairwise_map]
    exact catalog.newcomers_differ [] connections
  exact List.pairwise_map.mp keysDiffer

/-- One more connection brings one more material, or none. -/
theorem brought_concat
    (catalog : Catalog)
    (connections : List Connection)
    (connection : Connection) :
    catalog.brought (connections ++ [connection]) =
      if (catalog.findKey? connection.key).isNone
          && connections.all fun other => !other.key.agrees connection.key then
        catalog.brought connections ++
          [catalog.materialOf (catalog.brought connections).length connection]
      else catalog.brought connections := by
  rw [brought, newcomers_append, List.nil_append, newcomers]
  split
  · rw [newcomers, List.mapIdx_concat, brought, List.length_mapIdx]
  · rw [newcomers, List.append_nil, brought]

/-!
## Taking note of connections
-/

/-- A key is missing behind connections that bring it neither to the catalog nor among themselves. -/
theorem findKey?_appended_eq_none_iff
    {catalog : Catalog}
    {connections : List Connection}
    (appended :
      (catalog.noteConnections connections).materials =
        catalog.materials ++ catalog.brought connections)
    {key : MaterialKey} :
    (catalog.noteConnections connections).findKey? key = none ↔
      catalog.findKey? key = none ∧ ∀ other ∈ connections, other.key.agrees key = false := by
  rw [findKey?_eq_none_iff, findKey?_eq_none_iff]
  constructor
  · intro differs
    refine ⟨fun material member => differs material (mem_noteConnections member connections), ?_⟩
    intro other member
    obtain ⟨material, noted, agrees⟩ := catalog.covers_noteConnections connections other member
    by_contra otherAgrees
    rw [Bool.not_eq_false] at otherAgrees
    have missing := differs material noted
    rw [MaterialKey.agrees_trans agrees otherAgrees] at missing
    exact Bool.noConfusion missing
  · rintro ⟨oldDiffer, othersDiffer⟩ material member
    rw [appended] at member
    rcases List.mem_append.mp member with old | new
    · exact oldDiffer material old
    · obtain ⟨connection, brings, sameKey⟩ := mem_brought new
      rw [← sameKey]
      exact othersDiffer connection (mem_newcomers brings).1

/-- The materials that the connections bring are put behind the others. -/
theorem noteConnections_eq
    (catalog : Catalog)
    (connections : List Connection) :
    catalog.noteConnections connections =
      {
        nextId := catalog.nextId + (catalog.brought connections).length
        materials := catalog.materials ++ catalog.brought connections
      } := by
  -- from the back, since a connection counts against all that are in front of it
  induction connections using List.reverseRecOn with
  | nil =>
      simp [noteConnections, brought, newcomers]
  | append_singleton connections connection inductionHypothesis =>
      have step :
          catalog.noteConnections (connections ++ [connection]) =
            (catalog.noteConnections connections).noteConnection connection := by
        simp [noteConnections]
      have isNew_iff :
          ((catalog.findKey? connection.key).isNone
              && connections.all fun other => !other.key.agrees connection.key) = true ↔
            (catalog.noteConnections connections).findKey? connection.key = none := by
        rw [findKey?_appended_eq_none_iff (congrArg Catalog.materials inductionHypothesis)]
        simp
      rw [step, brought_concat, noteConnection]
      cases found : (catalog.noteConnections connections).findKey? connection.key with
      | none =>
          rw [if_pos (isNew_iff.mpr found), inductionHypothesis]
          simp [push, materialOf, placeName, size, Nat.add_assoc]
      | some material =>
          rw [if_neg fun isNew => absurd ((isNew_iff.mp isNew).symm.trans found) (by simp),
            inductionHypothesis]

/-- Connections whose keys are there bring nothing. -/
theorem noteConnections_of_found
    {catalog : Catalog}
    {connections : List Connection}
    (found : ∀ connection ∈ connections, (catalog.findKey? connection.key).isSome) :
    catalog.noteConnections connections = catalog := by
  induction connections with
  | nil =>
      rfl
  | cons connection rest inductionHypothesis =>
      obtain ⟨firstFound, restFound⟩ := List.forall_mem_cons.mp found
      obtain ⟨material, isFound⟩ := Option.isSome_iff_exists.mp firstFound
      have unchanged : catalog.noteConnection connection = catalog := by
        rw [noteConnection, isFound]
      have rest := inductionHypothesis restFound
      rw [noteConnections] at rest ⊢
      rw [List.foldl_cons, unchanged, rest]

/-- The key of each connection is found once they were noted. -/
theorem isSome_findKey?_noteConnections
    (catalog : Catalog)
    {connections : List Connection}
    {connection : Connection}
    (member : connection ∈ connections) :
    ((catalog.noteConnections connections).findKey? connection.key).isSome := by
  obtain ⟨material, noted, agrees⟩ := catalog.covers_noteConnections connections connection member
  rw [Option.isSome_iff_ne_none, ne_eq, findKey?_eq_none_iff]
  intro missing
  rw [missing material noted] at agrees
  exact Bool.noConfusion agrees

/-- A connection whose key is not there is the key of one of the materials that are brought. -/
theorem exists_mem_brought
    {catalog : Catalog}
    {connections : List Connection}
    {connection : Connection}
    (member : connection ∈ connections)
    (unknown : catalog.findKey? connection.key = none) :
    ∃ material ∈ catalog.brought connections, material.key.agrees connection.key = true := by
  obtain ⟨material, noted, agrees⟩ := catalog.covers_noteConnections connections connection member
  rw [noteConnections_eq] at noted
  rcases List.mem_append.mp noted with old | new
  · rw [findKey?_eq_none_iff.mp unknown material old] at agrees
    exact Bool.noConfusion agrees
  · exact ⟨material, new, agrees⟩

/-- Noting connections derives their materials. -/
theorem derives
    (catalog : Catalog)
    (connections : List Connection) :
    catalog.Derives connections where
  appended := by
    rw [noteConnections_eq]
  unknown material member := by
    obtain ⟨connection, brings, sameKey⟩ := mem_brought member
    rw [← sameKey]
    exact (mem_newcomers brings).2.1
  once connection member unknown := by
    obtain ⟨material, brought, agrees⟩ := exists_mem_brought member unknown
    exact MaterialKey.length_filter_agrees (catalog.brought_differ connections) brought agrees
  found connection member := catalog.isSome_findKey?_noteConnections member
  settled :=
    noteConnections_of_found fun _ member => catalog.isSome_findKey?_noteConnections member
  joined more := by
    rw [noteConnections, noteConnections, noteConnections, List.foldl_append]

/-!
## What happens to a catalog
-/

/-- The catalog after an action; an edit that fails leaves it as it is. -/
def after (catalog : Catalog) : CatalogAction → Catalog
  | .note connections => catalog.noteConnections connections
  | .add => catalog.addMaterial.1
  | .edit id fieldName value =>
      match catalog.update id fieldName value with
      | .ok (later, _) => later
      | .error _ => catalog

/-- Carry out one action after another. -/
def run (catalog : Catalog) (actions : List CatalogAction) : Catalog :=
  actions.foldl after catalog

/--
What an action makes of the materials: some are put behind them, or one of them is edited in one field
where it stands, or they are left alone.
-/
inductive Moves (catalog : Catalog) : CatalogAction → Catalog → Prop where
  | noted
      {connections : List Connection}
      {later : Catalog}
      (appended : later.materials = catalog.materials ++ catalog.brought connections) :
      Moves catalog (.note connections) later
  | added
      {material : Material}
      {later : Catalog}
      (appended : later.materials = catalog.materials ++ [material])
      (named : material.name = placeName catalog.size) :
      Moves catalog .add later
  | kept
      {id fieldName : String}
      {value : Json} :
      Moves catalog (.edit id fieldName value) catalog
  | edited
      {id fieldName : String}
      {value : Json}
      {field : MaterialField}
      {before behind : List Material}
      {material changed : Material}
      {later : Catalog}
      (named : MaterialField.ofName? fieldName = some field)
      (found : catalog.materials = before ++ material :: behind)
      (others : ∀ other ∈ before, other.id ≠ id)
      (sameId : material.id = id)
      (edited : material.Edited field changed)
      (set : later.materials = before ++ changed :: behind) :
      Moves catalog (.edit id fieldName value) later

/-- An action does to a catalog what is said of it. -/
theorem moves_after
    (catalog : Catalog)
    (action : CatalogAction) :
    catalog.Moves action (catalog.after action) := by
  cases action with
  | note connections =>
      exact .noted (catalog.derives connections).appended
  | add =>
      exact .added rfl rfl
  | edit id fieldName value =>
      rw [after]
      cases result : catalog.update id fieldName value with
      | error error =>
          exact .kept
      | ok updated =>
          obtain ⟨later, changed⟩ := updated
          rcases update_cases result with rfl | ⟨field, change, named, edit, rfl⟩
          · exact .kept
          · rcases catalog.modify_cases id change with
              same | ⟨before, material, behind, found, others, sameId, set⟩
            · dsimp only
              rw [same]
              exact .kept
            · exact .edited named found others sameId (change?_edits edit material) set

/-- Materials keep their places, and more come behind them. -/
theorem Moves.keepsPlaces
    {catalog later : Catalog}
    {action : CatalogAction}
    (moves : catalog.Moves action later) :
    catalog.materials.map Material.id <+: later.materials.map Material.id := by
  cases moves with
  | noted appended | added appended =>
      rw [appended, List.map_append]
      exact List.prefix_append _ _
  | kept =>
      exact List.prefix_rfl
  | edited named found others sameId edited set =>
      have sameIds : catalog.materials.map Material.id = later.materials.map Material.id := by
        rw [found, set, List.map_append, List.map_append, List.map_cons, List.map_cons, edited.id_eq]
      exact ⟨[], by rw [List.append_nil, sameIds]⟩

/-- No action moves a material from its place. -/
theorem places_run
    (catalog : Catalog)
    (actions : List CatalogAction) :
    catalog.materials.map Material.id <+: (catalog.run actions).materials.map Material.id := by
  induction actions generalizing catalog with
  | nil =>
      exact List.prefix_rfl
  | cons action rest inductionHypothesis =>
      exact (catalog.moves_after action).keepsPlaces.trans
        (inductionHypothesis (catalog.after action))

/-!
## Names by place
-/

/-- Every material has the name by its place. -/
def IsNamed (catalog : Catalog) : Prop :=
  catalog.materials.map Material.name = (List.range catalog.size).map placeName

/-- The materials that were brought are named by their places. -/
theorem names_brought
    (catalog : Catalog)
    (connections : List Connection) :
    (catalog.brought connections).map Material.name =
      (List.range (catalog.brought connections).length).map fun others =>
        placeName (catalog.size + others) := by
  apply List.ext_getElem
  · simp
  · intro place within _
    simp only [brought, List.getElem_map, List.getElem_mapIdx, List.getElem_range]
    rfl

/-- Only an edit of a name takes the name by its place from a material. -/
theorem Moves.isNamed
    {catalog later : Catalog}
    {action : CatalogAction}
    (moves : catalog.Moves action later)
    (keepsNames : action.renames = false)
    (named : catalog.IsNamed) :
    later.IsNamed := by
  rw [IsNamed, size] at named ⊢
  cases moves with
  | noted appended =>
      rw [appended, List.length_append, List.map_append, List.range_add, List.map_append, named,
        names_brought, List.map_map]
      rfl
  | added appended isNamed =>
      rw [appended, List.length_append, List.map_append, List.length_singleton, List.range_succ,
        List.map_append, named, List.map_singleton, List.map_singleton, isNamed]
      rfl
  | kept =>
      exact named
  | edited fieldNamed found others sameId edited set =>
      have kept := edited.name_eq fun isName => by
        subst isName
        simp [CatalogAction.renames, MaterialField.title_of_ofName? fieldNamed] at keepsNames
      rw [found] at named
      rw [set]
      simpa [kept] using named

/-- Without a new name, each material stays named by its place. -/
theorem isNamed_run
    {catalog : Catalog}
    {actions : List CatalogAction}
    (keepNames : ∀ action ∈ actions, action.renames = false)
    (named : catalog.IsNamed) :
    (catalog.run actions).IsNamed := by
  induction actions generalizing catalog with
  | nil =>
      exact named
  | cons action rest inductionHypothesis =>
      obtain ⟨keepsNames, restKeep⟩ := List.forall_mem_cons.mp keepNames
      exact inductionHypothesis restKeep ((catalog.moves_after action).isNamed keepsNames named)

/-- The name of a place is its number from one behind a fixed word. -/
theorem toList_placeName (place : Nat) :
    (placeName place).toList = "Material ".toList ++ Nat.toDigits 10 (place + 1) := by
  simp [placeName]

/-- No blank stands at an end of a name by place. -/
theorem trimmed_placeName (place : Nat) :
    trimmed (placeName place) = placeName place := by
  apply Text.IsTrimmed.trimmed_eq
  rw [toList_placeName]
  obtain ⟨digits, last, shape⟩ :=
    (List.eq_nil_or_concat' (Nat.toDigits 10 (place + 1))).resolve_left Nat.toDigits_ne_nil
  have isLast : last ∈ Nat.toDigits 10 (place + 1) := by
    simp [shape]
  have isDigit : last.isDigit = true :=
    Nat.isDigit_of_mem_toDigits (by decide) (by decide) isLast
  rw [shape, ← List.append_assoc]
  exact Text.isTrimmed_between (by decide) (Text.isBlank_of_isDigit isDigit) _

theorem toList_lowered_placeName (place : Nat) :
    (lowered (placeName place)).toList = "material ".toList ++ Nat.toDigits 10 (place + 1) := by
  have digitsSmall : ∀ c ∈ Nat.toDigits 10 (place + 1), c.toNat < 0x80 ∧ c.toLower = c :=
    fun _ member =>
      Text.small_of_isDigit (Nat.isDigit_of_mem_toDigits (by decide) (by decide) member)
  have titleAscii : ∀ c ∈ "Material ".toList, c.toNat < 0x80 :=
    Text.forall_of_all (by decide)
  have ascii : ∀ c ∈ "Material ".toList ++ Nat.toDigits 10 (place + 1), c.toNat < 0x80 :=
    List.forall_mem_append.mpr ⟨titleAscii, fun c member => (digitsSmall c member).1⟩
  have digitsKept : (Nat.toDigits 10 (place + 1)).map Char.toLower = Nat.toDigits 10 (place + 1) :=
    (List.map_congr_left fun c member => (digitsSmall c member).2).trans (List.map_id _)
  rw [lowered, String.toList_ofList, toList_placeName, Text.lower_of_ascii ascii, List.map_append,
    digitsKept]
  rfl

/-- Names by place are told apart by their numbers, in whatever case they are written. -/
theorem lowered_placeName_injective
    {first second : Nat}
    (same : lowered (placeName first) = lowered (placeName second)) :
    first = second := by
  have texts := congrArg String.toList same
  rw [toList_lowered_placeName, toList_lowered_placeName] at texts
  have numbers := congrArg (Nat.ofDigitChars 10 · 0) (List.append_cancel_left texts)
  simpa only [Nat.ofDigitChars_ten_toDigits, Nat.add_right_cancel_iff] using numbers

/-- A name by place finds the material that stands there. -/
theorem IsNamed.findName?_eq
    {catalog : Catalog}
    (named : catalog.IsNamed)
    (place : Nat) :
    catalog.findName? (placeName place) = catalog.materials[place]? := by
  have nameAt (other : Nat) (within : other < catalog.materials.length) :
      catalog.materials[other].name = placeName other := by
    have names := congrArg (fun names => names[other]?) named
    simpa [within, size] using names
  rw [findName?, trimmed_placeName]
  by_cases within : place < catalog.materials.length
  · rw [List.getElem?_eq_getElem within, List.find?_eq_some_iff_getElem]
    refine ⟨by simp [nameAt], place, within, rfl, ?_⟩
    intro earlier before
    have differs : lowered (placeName earlier) ≠ lowered (placeName place) := fun same =>
      Nat.ne_of_lt before (lowered_placeName_injective same)
    simpa [nameAt] using differs
  · rw [List.getElem?_eq_none (Nat.le_of_not_lt within), List.find?_eq_none]
    intro material member
    obtain ⟨other, otherWithin, rfl⟩ := List.mem_iff_getElem.mp member
    have differs : lowered (placeName other) ≠ lowered (placeName place) := fun same =>
      within (lowered_placeName_injective same ▸ otherWithin)
    simpa [nameAt] using differs

/--
Whatever has happened to a catalog, connections bring it the materials of their new keys, once and for
all.  No material was removed or moved, and whatever happens next puts materials behind the others or
edits one field of one of them.  As long as no names are set, every material is found by its place.
-/
theorem run_derives
    (start : Catalog)
    (actions : List CatalogAction) :
    let catalog := start.run actions
    (∀ connections, catalog.Derives connections) ∧
      start.materials.map Material.id <+: catalog.materials.map Material.id ∧
      (∀ action, catalog.Moves action (catalog.after action)) ∧
      (start.IsNamed → (∀ action ∈ actions, action.renames = false) →
        catalog.IsNamed ∧
          ∀ place, catalog.findName? (placeName place) = catalog.materials[place]?) := by
  refine ⟨derives _, start.places_run actions, moves_after _, ?_⟩
  intro named keepNames
  have stillNamed := isNamed_run keepNames named
  exact ⟨stillNamed, stillNamed.findName?_eq⟩

/-- Connections of two keys. -/
def seenTwice : List Connection :=
  [
    { fromId := 1, toId := 2, color := "red", thickness := 2 },
    { fromId := 2, toId := 3, color := "white", thickness := 2 },
    { fromId := 3, toId := 4, color := " RED ", thickness := 2 }
  ]

/-- A material that an edit takes from its key is brought once more, and behind the added one. -/
theorem run_derives_again :
    let actions :=
      [.note seenTwice, .add, .edit "00000001" "thickness" (.string "5"), .note seenTwice]
    let catalog := ({} : Catalog).run actions
    (∀ action ∈ actions, action.renames = false) ∧
      catalog.materials.map (fun material => (material.name, material.color, material.thickness)) =
        [
          ("Material 1", "red", .real 5), ("Material 2", "white", .real 2),
          ("Material 3", "#ffffff", .int 3), ("Material 4", "red", .real 2)
        ] ∧
      catalog.findName? "Material 4" = catalog.materials[3]? ∧
      (catalog.noteConnections seenTwice).materials = catalog.materials := by
  intro actions catalog
  have keepNames : ∀ action ∈ actions, action.renames = false := by
    decide
  obtain ⟨derives, -, -, names⟩ := run_derives {} actions
  obtain ⟨-, found⟩ := names rfl keepNames
  have nothingNew : catalog.brought seenTwice = [] := by
    decide +kernel
  refine ⟨keepNames, by decide +kernel, found 3, ?_⟩
  rw [(derives seenTwice).appended, nothingNew, List.append_nil]

end Catalog

end SceneEditor
