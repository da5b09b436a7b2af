import SceneEditor.Proofs.Line.CallShape
import SceneEditor.Proofs.Text.LetterCase

namespace SceneEditor

/-!
# Materials named in quotes

The name of a connect call is looked up without its quotes and the blanks around it, while the catalog
keeps a name as it was given.  So the names that are found by themselves are those that lose nothing.
-/

/-- What a name is looked up by: the name without its quotes and the blanks around them. -/
def ConnectCall.bareName (name : String) : String :=
  trimmed (String.ofList (name.toList.filter fun c => !isQuote c))

/-- A name without quotes, without blanks at its ends and on one line. -/
structure Material.IsNameable (material : Material) : Prop where
  unquoted : '"' ∉ material.name.toList ∧ '\'' ∉ material.name.toList
  isTrimmed : Text.IsTrimmed material.name.toList
  oneLine : '\n' ∉ material.name.toList

namespace ConnectCall

/-- Taking the quotes out changes nothing exactly where there are none. -/
theorem filter_unquoted_iff (name : List Char) :
    (name.filter fun c => !isQuote c) = name ↔ '"' ∉ name ∧ '\'' ∉ name := by
  rw [List.filter_eq_self]
  simp only [isQuote, Bool.not_eq_true', Bool.or_eq_false_iff, decide_eq_false_iff_not]
  constructor
  · intro unquoted
    exact ⟨fun member => (unquoted _ member).1 rfl, fun member => (unquoted _ member).2 rfl⟩
  · rintro ⟨noDouble, noSingle⟩ c member
    exact ⟨fun isDouble => noDouble (isDouble ▸ member),
      fun isSingle => noSingle (isSingle ▸ member)⟩

/-- A name is looked up as it is called exactly if nothing of it is left out. -/
theorem lowered_bareName_iff (name : String) :
    lowered (bareName name) = lowered name ↔
      ('"' ∉ name.toList ∧ '\'' ∉ name.toList) ∧ Text.IsTrimmed name.toList := by
  rw [lowered_eq_iff, bareName, trimmed, String.toList_ofList, String.toList_ofList]
  have isPart : (name.toList.filter fun c => !isQuote c).Sublist name.toList :=
    List.filter_sublist
  constructor
  · intro same
    have kept := Text.eq_of_lower_eq ((Text.trim_sublist _).trans isPart) same
    have whole : (name.toList.filter fun c => !isQuote c) = name.toList := by
      refine isPart.eq_of_length_le ?_
      have shorter := (Text.trim_sublist (name.toList.filter fun c => !isQuote c)).length_le
      rwa [kept] at shorter
    rw [whole] at kept
    exact ⟨(filter_unquoted_iff _).mp whole, kept ▸ Text.isTrimmed_trim _⟩
  · rintro ⟨unquoted, isTrimmed⟩
    rw [(filter_unquoted_iff _).mpr unquoted, isTrimmed.trim_eq]

end ConnectCall

/-- The first material that is called so, in whatever letter case. -/
def Catalog.called? (catalog : Catalog) (name : String) : Option Material :=
  catalog.materials.find? fun material => lowered material.name == lowered name

/-- A material that is found has the name that was looked for, in whatever case. -/
theorem Catalog.lowered_of_called?
    {catalog : Catalog}
    {name : String}
    {material : Material}
    (called : catalog.called? name = some material) :
    lowered material.name = lowered name := by
  have same := List.find?_some called
  exact beq_iff_eq.mp same

/-- A name can be given exactly if it is looked up as it is called. -/
theorem Material.isNameable_iff {material : Material} :
    material.IsNameable ↔
      '\n' ∉ material.name.toList ∧
        lowered (ConnectCall.bareName material.name) = lowered material.name := by
  rw [ConnectCall.lowered_bareName_iff]
  exact ⟨fun nameable => ⟨nameable.oneLine, nameable.unquoted, nameable.isTrimmed⟩,
    fun ⟨oneLine, unquoted, isTrimmed⟩ => ⟨unquoted, isTrimmed, oneLine⟩⟩

namespace ConnectCall

/-!
## Calls with a name in quotes
-/

/-- The connect call that the server gets for a material. -/
def written (source target : String) (material : Material) : String :=
  (Command.connect (trimmed source) (trimmed target) material.color material.thickness).wire

/-- A text that can stand in front of a comma of a call. -/
structure IsArgument (text : String) : Prop where
  filled : isBlankText text = false
  oneArgument : ',' ∉ text.toList

/-- A connect call as it is typed, with a name in double quotes. -/
def quoting (source target name : String) : String :=
  (Command.Shape.call "Connect" [source, target, "\"" ++ name ++ "\""]).text

theorem toList_quoting (source target name : String) :
    (quoting source target name).toList =
      "Connect".toList ++ '(' :: (source.toList ++ ',' :: (' ' :: target.toList ++
        ',' :: (' ' :: ('"' :: (name.toList ++ ['"']) ++ [')'])))) := by
  simp [quoting, Command.Shape.text, commaList]

theorem IsArgument.ne_nil
    {text : String}
    (isArgument : IsArgument text) :
    text.toList ≠ [] := by
  intro nothing
  have filled := isArgument.filled
  rw [isBlankText, nothing] at filled
  exact absurd filled (by decide)

/-- A quoted name is the last argument if it is on one line. -/
theorem lastArgument?_quoted (name : List Char) :
    lastArgument? (' ' :: ('"' :: (name ++ ['"']) ++ [')'])) =
      if '\n' ∈ name then none else some ('"' :: (name ++ ['"'])) := by
  have ended : (' ' :: ('"' :: (name ++ ['"']) ++ [')'])).getLast? = some ')' := by
    rw [← List.cons_append, List.getLast?_concat]
  have inside : (' ' :: ('"' :: (name ++ ['"']) ++ [')'])).dropLast = ' ' :: '"' :: (name ++ ['"']) := by
    rw [← List.cons_append, List.dropLast_concat]
  have behindSpace :
      (' ' :: '"' :: (name ++ ['"'])).dropWhile Text.isBlank = '"' :: (name ++ ['"']) := by
    rw [List.dropWhile_cons_of_pos (by decide), List.dropWhile_cons_of_neg (by decide)]
  have isTrimmed : Text.IsTrimmed ('"' :: (name ++ ['"'])) :=
    Text.isTrimmed_between (by decide) (by decide) name
  simp only [lastArgument?, ended, inside, behindSpace, isTrimmed.trim_eq]
  simp

/-- The call is read with its ends trimmed and the name in its quotes, if the name is on one line. -/
theorem ofText?_quoting
    {source target : String}
    (ofSource : IsArgument source)
    (ofTarget : IsArgument target)
    (name : String) :
    ofText? (quoting source target name).toList =
      if '\n' ∈ name.toList then none
      else some {
        source := Text.trim source.toList
        target := Text.trim target.toList
        material := '"' :: (name.toList ++ ['"']) } := by
  have spelled :
      CallText.takeName? "connect".toList "Connect".toList = some ("Connect".toList, []) := by
    decide
  have opened (rest : List Char) : CallText.afterMark? '(' ('(' :: rest) = some rest :=
    CallText.afterMark?_cons (by decide) rest
  have targetWhole : ',' ∉ ' ' :: target.toList :=
    List.not_mem_cons_of_ne_of_not_mem (by decide) ofTarget.oneArgument
  have targetCut (rest : List Char) :
      CallText.cutBefore? ',' (' ' :: target.toList ++ ',' :: rest) = some (' ' :: target.toList, rest) :=
    CallText.cutBefore?_append targetWhole rest
  have targetKept : Text.trim (' ' :: target.toList) = Text.trim target.toList :=
    Text.trim_cons_of_blank (by decide) _
  simp only [ofText?, toList_quoting, CallText.takeName?_append spelled, opened,
    CallText.cutBefore?_append ofSource.oneArgument, targetCut, lastArgument?_quoted,
    Option.bind_eq_bind, Option.bind_some]
  by_cases manyLines : '\n' ∈ name.toList
  · simp [manyLines]
  · simp [manyLines, ofSource.ne_nil, targetKept]

/-- A name in quotes is looked up without its quotes. -/
theorem findName?_quoted
    (catalog : Catalog)
    (source target : List Char)
    (name : String) :
    catalog.findName?
        (materialName { source, target, material := '"' :: (name.toList ++ ['"']) }) =
      catalog.called? (bareName name) := by
  have bare : ('"' :: (name.toList ++ ['"'])).filter (fun c => !isQuote c) =
      name.toList.filter fun c => !isQuote c := by
    simp [isQuote]
  rw [materialName, bare]
  rfl

/-- What comes of a connection with a quoted name. -/
theorem resolveMaterial_quoting_eq
    (catalog : Catalog)
    {source target : String}
    (ofSource : IsArgument source)
    (ofTarget : IsArgument target)
    (name : String) :
    resolveMaterial catalog (quoting source target name) =
      if '\n' ∈ name.toList then quoting source target name
      else ((catalog.called? (bareName name)).map (written source target)).getD
        (quoting source target name) := by
  have isTrimmed : Text.IsTrimmed (quoting source target name).toList :=
    Command.isTrimmed_call rfl (by decide) _
  rw [resolveMaterial, isTrimmed.trim_eq, ofText?_quoting ofSource ofTarget]
  by_cases manyLines : '\n' ∈ name.toList
  · rw [if_pos manyLines, if_pos manyLines]
  · rw [if_neg manyLines, if_neg manyLines]
    dsimp only
    rw [if_pos (by simp [namesMaterial, isQuote]), findName?_quoted]
    cases catalog.called? (bareName name) with
    | none =>
        rfl
    | some found =>
        simp [written, withMaterial, trimmed]

/--
A material of the catalog is named in double quotes.  If nothing of its name is left out, the call gets
the color and the thickness of the first material that is called so.  Otherwise it gets those of a
material that is not called so, or stays as it is.
-/
theorem resolveMaterial_quoting
    {catalog : Catalog}
    {material : Material}
    (member : material ∈ catalog.materials)
    {source target : String}
    (ofSource : IsArgument source)
    (ofTarget : IsArgument target) :
    let text := quoting source target material.name
    (material.IsNameable →
      ∃ first, catalog.called? material.name = some first ∧
        resolveMaterial catalog text = written source target first) ∧
    (¬ material.IsNameable →
      (∀ other, '\n' ∉ material.name.toList →
        catalog.called? (bareName material.name) = some other →
          lowered other.name ≠ lowered material.name ∧
            resolveMaterial catalog text = written source target other) ∧
      ('\n' ∈ material.name.toList ∨ catalog.called? (bareName material.name) = none →
        resolveMaterial catalog text = text)) := by
  intro text
  have resolved := resolveMaterial_quoting_eq catalog ofSource ofTarget material.name
  rw [Material.isNameable_iff]
  refine ⟨?_, ?_⟩
  · rintro ⟨oneLine, called⟩
    have isCalled : (catalog.called? material.name).isSome = true :=
      List.find?_isSome.mpr ⟨material, member, beq_self_eq_true _⟩
    obtain ⟨first, found⟩ := Option.isSome_iff_exists.mp isCalled
    refine ⟨first, found, ?_⟩
    have same : catalog.called? (bareName material.name) = catalog.called? material.name := by
      rw [Catalog.called?, called]
      rfl
    rw [resolved, if_neg oneLine, same, found]
    rfl
  · intro notNameable
    refine ⟨fun other oneLine found => ⟨?_, ?_⟩, ?_⟩
    · intro same
      have isCalled := Catalog.lowered_of_called? found
      exact notNameable ⟨oneLine, isCalled.symm.trans same⟩
    · rw [resolved, if_neg oneLine, found]
      rfl
    · rintro (manyLines | missing)
      · rw [resolved, if_pos manyLines]
      · rw [resolved, missing]
        exact ite_self _

/-- A name may hold commas and brackets, and the first material that has it in other letters is taken. -/
theorem resolveMaterial_quoting_twice :
    let twice : Catalog := {
      nextId := 3
      materials := [
        { id := "00000001", name := "OAK, (old)", color := "#abc", thickness := .int 2 },
        { id := "00000002", name := "Oak, (old)", color := "red", thickness := .int 3 }
      ] }
    ∃ material ∈ twice.materials, material.IsNameable ∧ IsArgument " p0" ∧ IsArgument "p1" ∧
      resolveMaterial twice (quoting " p0" "p1" material.name) = "Connect(p0, p1, #abc, 2)" := by
  intro twice
  let material : Material :=
    { id := "00000002", name := "Oak, (old)", color := "red", thickness := .int 3 }
  have member : material ∈ twice.materials :=
    List.mem_cons_of_mem _ List.mem_cons_self
  have isTrimmed : Text.IsTrimmed material.name.toList := by
    have same : Text.trim material.name.toList = material.name.toList := by
      decide
    exact same ▸ Text.isTrimmed_trim _
  have nameable : material.IsNameable :=
    ⟨by decide, isTrimmed, by decide⟩
  have ofSource : IsArgument " p0" := ⟨by decide, by decide⟩
  have ofTarget : IsArgument "p1" := ⟨by decide, by decide⟩
  obtain ⟨first, found, resolved⟩ := (resolveMaterial_quoting member ofSource ofTarget).1 nameable
  have isFirst : twice.called? material.name =
      some { id := "00000001", name := "OAK, (old)", color := "#abc", thickness := .int 2 } := by
    decide +kernel
  obtain rfl := Option.some.inj (found.symm.trans isFirst)
  exact ⟨material, member, nameable, ofSource, ofTarget, resolved.trans (by decide +kernel)⟩

/--
A material that is given a name with a blank at its end is not found by it.  In place of a material that
is given a name with a quote, the one without the quote is taken.
-/
theorem resolveMaterial_overlooks :
    (({} : Catalog).addMaterial.1.update "00000001" "name" (.string "Steel ")).map
        (fun (renamed, _) =>
          (renamed.materials.map Material.name,
            resolveMaterial renamed (quoting "p0" "p1" "Steel "))) =
      .ok (["Steel "], "Connect(p0, p1, \"Steel \")") ∧
    (({} : Catalog).addMaterial.1.addMaterial.1.update "00000002" "name"
        (.string "Material\" 1")).map
        (fun (renamed, _) =>
          (renamed.materials.map Material.name, renamed.materials.map Material.thickness,
            resolveMaterial renamed (quoting "p0" "p1" "Material\" 1"))) =
      .ok (["Material 1", "Material\" 1"], [.int 2, .int 3], "Connect(p0, p1, #ffffff, 2)") := by
  constructor
  · decide +kernel
  · decide +kernel

end ConnectCall

end SceneEditor
