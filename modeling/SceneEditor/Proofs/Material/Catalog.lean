import Mathlib.Data.List.Nodup
import SceneEditor.Material.Catalog
import SceneEditor.Proofs.Json.Typed
import SceneEditor.Proofs.Number.Agreement

namespace SceneEditor

/-!
# The catalog as it grows

Three properties of a catalog are looked at.  Its identifiers are distinct: every change of a
catalog keeps this.  It covers some connections: taking note of them makes it so, and growing
keeps it.  Its keys differ: growing keeps this, since it adds only keys that were not there, but
an edit need not.
-/

/-- Different numbers have different identifiers. -/
theorem identifier_injective
    {first second : Nat}
    (same : identifier first = identifier second) :
    first = second := by
  have readBack (number : Nat) :
      Nat.ofDigitChars 10 (identifier number).toList 0 = number := by
    have zeros (count : Nat) : Nat.ofDigitChars 10 (List.replicate count '0') 0 = 0 := by
      induction count with
      | zero =>
          rfl
      | succ count inductionHypothesis =>
          exact inductionHypothesis
    rw [identifier, String.toList_ofList, Nat.ofDigitChars_append, zeros,
      Nat.ofDigitChars_ten_toDigits]
  calc first
      = Nat.ofDigitChars 10 (identifier first).toList 0 := (readBack first).symm
    _ = Nat.ofDigitChars 10 (identifier second).toList 0 := by rw [same]
    _ = second := readBack second

namespace MaterialKey

/-- Keys agree exactly in the color and in the value of the thickness. -/
theorem agrees_iff
    {left right : MaterialKey} :
    left.agrees right = true ↔
      left.color = right.color ∧ left.thickness.agrees right.thickness = true := by
  simp [agrees]

theorem agrees_refl (key : MaterialKey) :
    key.agrees key = true :=
  agrees_iff.mpr ⟨rfl, key.thickness.agrees_refl⟩

theorem agrees_symm
    {left right : MaterialKey}
    (agree : left.agrees right = true) :
    right.agrees left = true := by
  obtain ⟨color, thickness⟩ := agrees_iff.mp agree
  exact agrees_iff.mpr ⟨color.symm, Num.agrees_symm thickness⟩

theorem agrees_trans
    {left middle right : MaterialKey}
    (first : left.agrees middle = true)
    (second : middle.agrees right = true) :
    left.agrees right = true := by
  obtain ⟨firstColor, firstThickness⟩ := agrees_iff.mp first
  obtain ⟨secondColor, secondThickness⟩ := agrees_iff.mp second
  exact agrees_iff.mpr
    ⟨firstColor.trans secondColor, Num.agrees_trans firstThickness secondThickness⟩

theorem agrees_comm (left right : MaterialKey) :
    left.agrees right = right.agrees left :=
  Bool.eq_iff_iff.mpr ⟨agrees_symm, agrees_symm⟩

/-- Where the keys of items differ, a key that one of them has is the key of that one only. -/
theorem length_filter_agrees
    {items : List α}
    {key : α → MaterialKey}
    (differ : items.Pairwise fun first second => (key first).agrees (key second) = false)
    {wanted : MaterialKey}
    {item : α}
    (member : item ∈ items)
    (agrees : (key item).agrees wanted = true) :
    (items.filter fun item => (key item).agrees wanted).length = 1 := by
  have matched : item ∈ items.filter fun item => (key item).agrees wanted :=
    List.mem_filter.mpr ⟨member, agrees⟩
  have matchedDiffer := differ.filter fun item => (key item).agrees wanted
  have allMatch :
      ∀ item ∈ items.filter fun item => (key item).agrees wanted,
        (key item).agrees wanted = true :=
    fun item inFilter => (List.mem_filter.mp inFilter).2
  generalize (items.filter fun item => (key item).agrees wanted) = matching at *
  rcases matching with _ | ⟨first, _ | ⟨second, rest⟩⟩
  · exact absurd matched List.not_mem_nil
  · rfl
  · have firstMatches := allMatch first List.mem_cons_self
    have secondMatches := allMatch second (List.mem_cons_of_mem first List.mem_cons_self)
    have apart := List.rel_of_pairwise_cons matchedDiffer (List.mem_cons_self (a := second))
    rw [agrees_trans firstMatches (agrees_symm secondMatches)] at apart
    exact Bool.noConfusion apart

end MaterialKey

/-- Connections that agree have keys that agree. -/
theorem Connection.key_agrees
    {left right : Connection}
    (agree : left.agrees right = true) :
    left.key.agrees right.key = true := by
  simp only [Connection.agrees, Bool.and_eq_true, beq_iff_eq] at agree
  obtain ⟨⟨-, color⟩, thickness⟩ := agree
  rw [MaterialKey.agrees_iff]
  constructor
  · simp only [Connection.key, MaterialKey.of, color]
  · exact Binary64.agrees_iff.mp thickness

/-- The name under which a field is edited. -/
def MaterialField.title : MaterialField → String
  | name => "name"
  | color => "color"
  | thickness => "thickness"
  | price => "price"

/-- A field is found by its title only. -/
theorem MaterialField.title_of_ofName?
    {fieldName : String}
    {field : MaterialField}
    (named : ofName? fieldName = some field) :
    fieldName = field.title := by
  unfold ofName? at named
  split at named
  · obtain rfl := Option.some.inj named
    rfl
  · obtain rfl := Option.some.inj named
    rfl
  · obtain rfl := Option.some.inj named
    rfl
  · obtain rfl := Option.some.inj named
    rfl
  · exact absurd named (by simp)

namespace Material

/--
The second material is the first one with one field set.  A thickness that is set is a floating-point
number.
-/
inductive Edited (material : Material) : MaterialField → Material → Prop where
  | name (name : String) : Edited material .name { material with name }
  | color (color : String) : Edited material .color { material with color }
  | thickness (real : Binary64) :
      Edited material .thickness { material with thickness := .real real }
  | price (price : Binary64) : Edited material .price { material with price }

/-- An edit keeps the id. -/
theorem Edited.id_eq
    {material later : Material}
    {field : MaterialField}
    (edited : material.Edited field later) :
    later.id = material.id := by
  cases edited <;> rfl

/-- An edit keeps the thickness or sets it to a real number. -/
theorem Edited.thickness_cases
    {material later : Material}
    {field : MaterialField}
    (edited : material.Edited field later) :
    later.thickness = material.thickness ∨ ∃ real, later.thickness = .real real := by
  cases edited with
  | thickness real =>
      exact Or.inr ⟨real, rfl⟩
  | name | color | price =>
      exact Or.inl rfl

/-- Only an edit of the name changes it. -/
theorem Edited.name_eq
    {material later : Material}
    {field : MaterialField}
    (edited : material.Edited field later)
    (notName : field ≠ .name) :
    later.name = material.name := by
  cases edited with
  | color | thickness | price =>
      rfl
  | name =>
      exact absurd rfl notName

/-- Only an edit of the color or of the thickness changes what a material is to the server. -/
theorem Edited.kind_eq
    {material later : Material}
    {field : MaterialField}
    (edited : material.Edited field later)
    (notColor : field ≠ .color)
    (notThickness : field ≠ .thickness) :
    (later.color, later.thickness) = (material.color, material.thickness) := by
  cases edited with
  | name | price =>
      rfl
  | color =>
      exact absurd rfl notColor
  | thickness =>
      exact absurd rfl notThickness

end Material

namespace Catalog

/-- The identifiers are distinct, and all of them were given out before the next one. -/
structure IsNumbered (catalog : Catalog) : Prop where
  distinct : (catalog.materials.map Material.id).Nodup
  given :
    ∀ id ∈ catalog.materials.map Material.id, ∃ number < catalog.nextId, id = identifier number

/-- The keys of no two materials agree. -/
def KeysDiffer (catalog : Catalog) : Prop :=
  catalog.materials.Pairwise fun first second => first.key.agrees second.key = false

/-- The key of every connection is the key of a material. -/
def Covers (catalog : Catalog) (connections : List Connection) : Prop :=
  ∀ connection ∈ connections,
    ∃ material ∈ catalog.materials, material.key.agrees connection.key = true

/-- A key is not found exactly if no material has it. -/
theorem findKey?_eq_none_iff
    {catalog : Catalog}
    {key : MaterialKey} :
    catalog.findKey? key = none ↔
      ∀ material ∈ catalog.materials, material.key.agrees key = false := by
  simp [findKey?]

/-!
## Growing by one material
-/

theorem IsNumbered.push
    {catalog : Catalog}
    (numbered : catalog.IsNumbered)
    (color : String)
    (thickness : Num) :
    (catalog.push color thickness).1.IsNumbered := by
  have fresh : identifier catalog.nextId ∉ catalog.materials.map Material.id := by
    intro used
    obtain ⟨number, earlier, same⟩ := numbered.given _ used
    exact Nat.ne_of_lt earlier (identifier_injective same).symm
  constructor
  · rw [Catalog.push, List.map_append, List.nodup_append]
    refine ⟨numbered.distinct, by simp, ?_⟩
    intro id member other otherMember same
    obtain rfl : other = identifier catalog.nextId := by simpa using otherMember
    exact fresh (same ▸ member)
  · intro id member
    rw [Catalog.push, List.map_append, List.mem_append] at member
    rcases member with old | new
    · obtain ⟨number, earlier, same⟩ := numbered.given id old
      exact ⟨number, Nat.lt_succ_of_lt earlier, same⟩
    · exact ⟨catalog.nextId, Nat.lt_succ_self _, by simpa using new⟩

/-- A new material of a new key keeps all keys different. -/
theorem KeysDiffer.push
    {catalog : Catalog}
    (differ : catalog.KeysDiffer)
    {color : String}
    {thickness : Num}
    (absent : catalog.findKey? (.of color thickness) = none) :
    (catalog.push color thickness).1.KeysDiffer := by
  rw [KeysDiffer, Catalog.push, List.pairwise_append]
  refine ⟨differ, List.pairwise_singleton _ _, ?_⟩
  intro material member added isAdded
  obtain rfl := List.mem_singleton.mp isAdded
  exact findKey?_eq_none_iff.mp absent material member

/-- A new material removes none. -/
theorem mem_push
    {catalog : Catalog}
    {material : Material}
    (member : material ∈ catalog.materials)
    (color : String)
    (thickness : Num) :
    material ∈ (catalog.push color thickness).1.materials :=
  List.mem_append_left _ member

/-!
## Taking note of connections
-/

theorem IsNumbered.noteConnections
    {catalog : Catalog}
    (numbered : catalog.IsNumbered)
    (connections : List Connection) :
    (catalog.noteConnections connections).IsNumbered := by
  induction connections generalizing catalog with
  | nil =>
      exact numbered
  | cons connection rest inductionHypothesis =>
      apply inductionHypothesis
      unfold noteConnection
      split
      · exact numbered
      · exact numbered.push connection.color (.real connection.thickness)

theorem KeysDiffer.noteConnections
    {catalog : Catalog}
    (differ : catalog.KeysDiffer)
    (connections : List Connection) :
    (catalog.noteConnections connections).KeysDiffer := by
  induction connections generalizing catalog with
  | nil =>
      exact differ
  | cons connection rest inductionHypothesis =>
      apply inductionHypothesis
      unfold noteConnection
      split
      · exact differ
      · next absent =>
          exact differ.push absent

theorem mem_noteConnection
    {catalog : Catalog}
    {material : Material}
    (member : material ∈ catalog.materials)
    (connection : Connection) :
    material ∈ (catalog.noteConnection connection).materials := by
  unfold noteConnection
  split
  · exact member
  · exact mem_push member connection.color (.real connection.thickness)

theorem mem_noteConnections
    {catalog : Catalog}
    {material : Material}
    (member : material ∈ catalog.materials)
    (connections : List Connection) :
    material ∈ (catalog.noteConnections connections).materials := by
  induction connections generalizing catalog with
  | nil =>
      exact member
  | cons connection rest inductionHypothesis =>
      exact inductionHypothesis (mem_noteConnection member connection)

/-- A connection that was taken note of has the key of a material. -/
theorem exists_mem_noteConnection
    (catalog : Catalog)
    (connection : Connection) :
    ∃ material ∈ (catalog.noteConnection connection).materials,
      material.key.agrees connection.key = true := by
  unfold noteConnection
  split
  · next material found =>
      have agrees : material.key.agrees connection.key = true := by
        simpa using List.find?_some found
      exact ⟨material, List.mem_of_find?_eq_some found, agrees⟩
  · exact ⟨_, List.mem_append_right _ List.mem_cons_self, MaterialKey.agrees_refl _⟩

/-- Once all connections were taken note of, each has the key of a material. -/
theorem covers_noteConnections
    (catalog : Catalog)
    (connections : List Connection) :
    (catalog.noteConnections connections).Covers connections := by
  induction connections generalizing catalog with
  | nil =>
      intro connection member
      exact absurd member List.not_mem_nil
  | cons first rest inductionHypothesis =>
      intro connection member
      rcases List.mem_cons.mp member with rfl | inRest
      · obtain ⟨material, noted, agrees⟩ := catalog.exists_mem_noteConnection connection
        exact ⟨material, mem_noteConnections noted rest, agrees⟩
      · exact inductionHypothesis (catalog.noteConnection first) connection inRest

/-- A new material leaves the others to cover what they cover. -/
theorem Covers.push
    {catalog : Catalog}
    {connections : List Connection}
    (covers : catalog.Covers connections)
    (color : String)
    (thickness : Num) :
    (catalog.push color thickness).1.Covers connections := by
  intro connection member
  obtain ⟨material, known, agrees⟩ := covers connection member
  exact ⟨material, mem_push known color thickness, agrees⟩

/-- Connections that agree with covered ones are covered. -/
theorem Covers.of_connectionsAgree
    {catalog : Catalog}
    {old new : List Connection}
    (covers : catalog.Covers old)
    (unchanged : connectionsAgree new old = true) :
    catalog.Covers new := by
  induction new generalizing old with
  | nil =>
      intro connection member
      exact absurd member List.not_mem_nil
  | cons first rest inductionHypothesis =>
      cases old with
      | nil =>
          exact absurd unchanged (by simp [connectionsAgree])
      | cons oldFirst oldRest =>
          simp only [connectionsAgree, Bool.and_eq_true] at unchanged
          obtain ⟨firstAgrees, restAgrees⟩ := unchanged
          intro connection member
          rcases List.mem_cons.mp member with rfl | inRest
          · obtain ⟨material, known, agrees⟩ := covers oldFirst List.mem_cons_self
            have keyAgrees := Connection.key_agrees firstAgrees
            exact ⟨material, known,
              MaterialKey.agrees_trans agrees (MaterialKey.agrees_symm keyAgrees)⟩
          · have restCovered : catalog.Covers oldRest := fun other otherMember =>
              covers other (List.mem_cons_of_mem oldFirst otherMember)
            exact inductionHypothesis restCovered restAgrees connection inRest

/-!
## Edits
-/

/-- A change leaves the catalog alone, or it is made to the first material of the identifier. -/
theorem modify_cases
    (catalog : Catalog)
    (id : String)
    (change : Material → Material) :
    catalog.modify id change = catalog ∨
      ∃ before material behind,
        catalog.materials = before ++ material :: behind ∧
          (∀ other ∈ before, other.id ≠ id) ∧
          material.id = id ∧
          (catalog.modify id change).materials = before ++ change material :: behind := by
  have among (materials : List Material) :
      modify.go id change materials = materials ∨
        ∃ before material behind,
          materials = before ++ material :: behind ∧
            (∀ other ∈ before, other.id ≠ id) ∧
            material.id = id ∧
            modify.go id change materials = before ++ change material :: behind := by
    induction materials with
    | nil =>
        exact Or.inl rfl
    | cons first rest inductionHypothesis =>
        by_cases isFirst : first.id = id
        · refine Or.inr ⟨[], first, rest, rfl, by simp, isFirst, ?_⟩
          rw [modify.go, if_pos (beq_iff_eq.mpr isFirst)]
          rfl
        · rw [modify.go, if_neg (by simpa using isFirst)]
          rcases inductionHypothesis with same | ⟨before, material, behind, rfl, others, sameId, set⟩
          · exact Or.inl (congrArg (first :: ·) same)
          · refine Or.inr ⟨first :: before, material, behind, rfl, ?_, sameId, ?_⟩
            · exact List.forall_mem_cons.mpr ⟨isFirst, others⟩
            · rw [set]
              rfl
  rcases among catalog.materials with same | found
  · refine Or.inl ?_
    rw [modify, same]
  · exact Or.inr found

/-- What an edit keeps of every material, it keeps of the materials one by one. -/
theorem map_modify
    {view : Material → α}
    (catalog : Catalog)
    (id : String)
    {change : Material → Material}
    (keeps : ∀ material, view (change material) = view material) :
    (catalog.modify id change).materials.map view = catalog.materials.map view := by
  rcases catalog.modify_cases id change with same | ⟨before, material, behind, shape, -, -, set⟩
  · rw [same]
  · rw [set, shape, List.map_append, List.map_append, List.map_cons, List.map_cons, keeps]

/-- A material of the edited catalog was there before, as it is or before its edit. -/
theorem mem_modify
    {catalog : Catalog}
    {id : String}
    {change : Material → Material}
    {material : Material}
    (member : material ∈ (catalog.modify id change).materials) :
    ∃ earlier ∈ catalog.materials, material = earlier ∨ material = change earlier := by
  rcases catalog.modify_cases id change with same | ⟨before, edited, behind, shape, -, -, set⟩
  · rw [same] at member
    exact ⟨material, member, Or.inl rfl⟩
  · rw [set] at member
    rw [shape]
    rcases List.mem_append.mp member with inBefore | inRest
    · exact ⟨material, List.mem_append_left _ inBefore, Or.inl rfl⟩
    · rcases List.mem_cons.mp inRest with isEdited | inBehind
      · exact ⟨edited, List.mem_append_right _ List.mem_cons_self, Or.inr isEdited⟩
      · refine ⟨material, ?_, Or.inl rfl⟩
        exact List.mem_append_right _ (List.mem_cons_of_mem edited inBehind)

/-- An edit sets the field that it names. -/
theorem change?_edits
    {field : MaterialField}
    {value : Json}
    {change : Material → Material}
    (edit : change? field value = .ok (some change))
    (material : Material) :
    material.Edited field (change material) := by
  cases field with
  | name =>
      obtain ⟨name, -, result⟩ := Attempt.bind_eq_ok_iff.mp edit
      obtain rfl := Option.some.inj (Except.ok.inj result)
      exact .name name
  | color =>
      obtain ⟨color, -, result⟩ := Attempt.bind_eq_ok_iff.mp edit
      obtain rfl := Option.some.inj (Except.ok.inj result)
      exact .color color
  | thickness =>
      obtain ⟨typed?, -, result⟩ := Attempt.bind_eq_ok_iff.mp edit
      cases typed? with
      | none =>
          exact absurd (Json.eq_none_of_discarded result) (by simp)
      | some real =>
          dsimp only at result
          split at result
          · obtain rfl := Option.some.inj (Except.ok.inj result)
            exact .thickness real
          · exact absurd (Json.eq_none_of_discarded result) (by simp)
  | price =>
      obtain ⟨typed?, -, result⟩ := Attempt.bind_eq_ok_iff.mp edit
      obtain rfl := Option.some.inj (Except.ok.inj result)
      exact .price _

/-- No edit changes an identifier. -/
theorem change?_keepsId
    {field : MaterialField}
    {value : Json}
    {change : Material → Material}
    (edit : change? field value = .ok (some change))
    (material : Material) :
    (change material).id = material.id :=
  (change?_edits edit material).id_eq

/-- An update leaves the catalog alone, or it edits the first material of the identifier. -/
theorem update_cases
    {catalog later : Catalog}
    {id fieldName : String}
    {value : Json}
    {changed : Bool}
    (edited : catalog.update id fieldName value = .ok (later, changed)) :
    later = catalog ∨
      ∃ field change,
        MaterialField.ofName? fieldName = some field ∧
          change? field value = .ok (some change) ∧ later = catalog.modify id change := by
  unfold Catalog.update at edited
  split at edited
  · exact absurd edited (by simp)
  · next field named =>
    split at edited
    · exact Or.inl (Prod.mk.inj (Except.ok.inj edited)).1.symm
    · split at edited
      · exact absurd edited (by simp)
      · exact Or.inl (Prod.mk.inj (Except.ok.inj edited)).1.symm
      · next change edit =>
        exact Or.inr ⟨field, change, named, edit, (Prod.mk.inj (Except.ok.inj edited)).1.symm⟩

theorem IsNumbered.update
    {catalog later : Catalog}
    (numbered : catalog.IsNumbered)
    {id fieldName : String}
    {value : Json}
    {changed : Bool}
    (edited : catalog.update id fieldName value = .ok (later, changed)) :
    later.IsNumbered := by
  rcases update_cases edited with rfl | ⟨field, change, -, edit, rfl⟩
  · exact numbered
  · have sameIds := catalog.map_modify id (change?_keepsId edit)
    constructor
    · rw [sameIds]
      exact numbered.distinct
    · rw [sameIds]
      exact numbered.given

end Catalog

end SceneEditor
