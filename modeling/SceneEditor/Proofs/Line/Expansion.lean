import SceneEditor.Line.Dispatcher
import SceneEditor.Proofs.Attempt
import SceneEditor.Proofs.Line.CallText
import SceneEditor.Proofs.Text.Blank

namespace SceneEditor

/-!
# Expanded lines

A line is expanded in two steps, each of which leaves it alone or writes a whole call in its place.
So an expanded line has no blanks at its ends.
-/

namespace Command

theorem toList_call
    {name : String}
    {c : Char}
    {rest : List Char}
    (spelled : name.toList = c :: rest)
    (arguments : List String) :
    (Shape.call name arguments).text.toList =
      c :: ((rest ++ '(' :: (commaList arguments).toList) ++ [')']) := by
  simp [Shape.text, spelled]

/-- A call has no blanks at its ends, unless its name begins with one. -/
theorem isTrimmed_call
    {name : String}
    {c : Char}
    {rest : List Char}
    (spelled : name.toList = c :: rest)
    (visible : Text.isBlank c = false)
    (arguments : List String) :
    Text.IsTrimmed (Shape.call name arguments).text.toList := by
  rw [toList_call spelled]
  exact Text.isTrimmed_between visible (by decide) _

end Command

namespace ConnectCall

/-- The text is a connect call that names the material. -/
structure Names (catalog : Catalog) (text : List Char) (call : ConnectCall) (material : Material) :
    Prop where
  read : ofText? text = some call
  isName : call.namesMaterial = true
  found : catalog.findName? call.materialName = some material

/-- A call that names a material of the catalog is written with that material. -/
theorem Names.resolveMaterial_eq
    {catalog : Catalog}
    {text : String}
    {call : ConnectCall}
    {material : Material}
    (names : Names catalog (Text.trim text.toList) call material) :
    resolveMaterial catalog text = (call.withMaterial material).wire := by
  simp [resolveMaterial, names.read, names.isName, names.found]

/-- A text that names no material stays as it is. -/
theorem resolveMaterial_eq_text
    {catalog : Catalog}
    {text : String}
    (nameless : ¬ ∃ call material, Names catalog (Text.trim text.toList) call material) :
    resolveMaterial catalog text = text := by
  unfold resolveMaterial
  split
  · rfl
  · next call read =>
    split
    · next isName =>
      split
      · next material found =>
        exact absurd ⟨call, material, read, isName, found⟩ nameless
      · rfl
    · rfl

/-- A text is left alone, or it is a connect call and one with a material is put in its place. -/
theorem resolveMaterial_cases
    (catalog : Catalog)
    (text : String) :
    resolveMaterial catalog text = text ∨
      ∃ call material,
        ofText? (Text.trim text.toList) = some call ∧
          resolveMaterial catalog text = (call.withMaterial material).wire := by
  by_cases named : ∃ call material, Names catalog (Text.trim text.toList) call material
  · obtain ⟨call, material, names⟩ := named
    exact Or.inr ⟨call, material, names.read, names.resolveMaterial_eq⟩
  · exact Or.inl (resolveMaterial_eq_text named)

/-- A call with its material begins with its name and ends with its bracket. -/
theorem withMaterial_wire
    (call : ConnectCall)
    (material : Material) :
    ∃ arguments,
      (call.withMaterial material).wire.toList = 'C' :: (arguments ++ [')']) :=
  ⟨_, Command.toList_call rfl _⟩

theorem isTrimmed_withMaterial
    (call : ConnectCall)
    (material : Material) :
    Text.IsTrimmed (call.withMaterial material).wire.toList :=
  Command.isTrimmed_call rfl (by decide) _

/-- Resolving a material adds no blanks at the ends. -/
theorem isTrimmed_resolveMaterial
    {text : String}
    (isTrimmed : Text.IsTrimmed text.toList)
    (catalog : Catalog) :
    Text.IsTrimmed (resolveMaterial catalog text).toList := by
  rcases resolveMaterial_cases catalog text with same | ⟨call, material, -, wire⟩
  · rw [same]
    exact isTrimmed
  · rw [wire]
    exact isTrimmed_withMaterial call material

end ConnectCall

namespace CollectionCall

/-- The arguments of a call come from between its brackets and commas. -/
theorem arguments?_cases
    {command text : List Char}
    {call : CollectionCall}
    (read : arguments? command text = some call) :
    call.command = command ∧
      ∃ inner name afterComma afterBracket afterBody,
        CallText.cutBefore? ',' inner = some (name, afterComma) ∧
          nameOf? name = some call.collection ∧
          (call.collection.any fun c => c = '[' || c = ']') = false ∧
          CallText.cutBefore? ']' afterBracket = some (call.body, afterBody) := by
  obtain ⟨inner, -, read⟩ := Option.bind_eq_some_iff.mp read
  obtain ⟨⟨name, afterComma⟩, nameCut, read⟩ := Option.bind_eq_some_iff.mp read
  obtain ⟨collection, named, read⟩ := Option.bind_eq_some_iff.mp read
  split at read
  · exact absurd read (by simp)
  · next noBracket =>
    obtain ⟨afterBracket, -, read⟩ := Option.bind_eq_some_iff.mp read
    obtain ⟨⟨body, afterBody⟩, bodyCut, read⟩ := Option.bind_eq_some_iff.mp read
    dsimp only at read
    split at read
    · obtain rfl := Option.some.inj read
      exact ⟨rfl, inner, name, afterComma, afterBracket, afterBody, nameCut, named,
        Bool.eq_false_iff.mpr noBracket, bodyCut⟩
    · exact absurd read (by simp)

/-- A call begins with its command, which is not empty. -/
theorem command_of_ofText?
    {text : List Char}
    {call : CollectionCall}
    (read : ofText? text = some call) :
    call.command ≠ [] ∧ ∃ rest, text = call.command ++ rest := by
  obtain ⟨name, member, read⟩ := List.exists_of_findSome?_eq_some read
  obtain ⟨⟨command, rest⟩, taken, arguments⟩ := Option.bind_eq_some_iff.mp read
  obtain ⟨rfl, length⟩ := CallText.eq_append_of_takeName? taken
  rw [(arguments?_cases arguments).1]
  refine ⟨?_, rest, rfl⟩
  rintro rfl
  have nonempty : ∀ name ∈ commands, name.length ≠ 0 := by decide
  exact nonempty name member length.symm

/-- A text that is a call with ranges, all members of whose list are well formed. -/
structure IsRanged (text : List Char) (call : CollectionCall) (ids : List Int) : Prop where
  read : ofText? text = some call
  ranged : Text.occurs ['.', '.'] call.body = true
  listed : PointRange.expandList? (String.ofList call.body) = .ok (some ids)

/-- The ranges of such a text are written out. -/
theorem IsRanged.expandRanges_eq
    {text : String}
    {call : CollectionCall}
    {ids : List Int}
    (isRanged : IsRanged (Text.trim text.toList) call ids) :
    expandRanges text = .ok (call.withPoints ids) := by
  simp [expandRanges, isRanged.read, isRanged.ranged, isRanged.listed, bind, Except.bind, pure,
    Except.pure]

/-- A text that is expanded is left alone, unless it is such a text. -/
theorem expandRanges_eq_text
    {text expanded : String}
    (succeeds : expandRanges text = .ok expanded)
    (unranged : ¬ ∃ call ids, IsRanged (Text.trim text.toList) call ids) :
    expanded = text := by
  unfold expandRanges at succeeds
  split at succeeds
  · exact (Except.ok.inj succeeds).symm
  · next call read =>
    split at succeeds
    · next ranged =>
      obtain ⟨ids?, listed, succeeds⟩ := Attempt.bind_eq_ok_iff.mp succeeds
      cases ids? with
      | none =>
          exact (Except.ok.inj succeeds).symm
      | some ids =>
          exact absurd ⟨call, ids, read, ranged, listed⟩ unranged
    · exact (Except.ok.inj succeeds).symm

/-- A text is left alone, or a call with the points written out is put in its place. -/
theorem expandRanges_cases
    {text expanded : String}
    (succeeds : expandRanges text = .ok expanded) :
    expanded = text ∨
      ∃ call ids,
        ofText? (Text.trim text.toList) = some call ∧ expanded = call.withPoints ids := by
  by_cases ranged : ∃ call ids, IsRanged (Text.trim text.toList) call ids
  · obtain ⟨call, ids, isRanged⟩ := ranged
    have written := Except.ok.inj (succeeds.symm.trans isRanged.expandRanges_eq)
    exact Or.inr ⟨call, ids, isRanged.read, written⟩
  · exact Or.inl (expandRanges_eq_text succeeds ranged)

/-- Writing the points out adds no blanks at the ends. -/
theorem isTrimmed_withPoints
    {text : List Char}
    {call : CollectionCall}
    (isTrimmed : Text.IsTrimmed text)
    (read : ofText? text = some call)
    (ids : List Int) :
    Text.IsTrimmed (call.withPoints ids).toList := by
  obtain ⟨nonempty, rest, rfl⟩ := command_of_ofText? read
  obtain ⟨first, others, shape⟩ := List.exists_cons_of_ne_nil nonempty
  have firstKept : Text.isBlank first = false := isTrimmed.front first (by rw [shape]; rfl)
  have text :
      (call.withPoints ids).toList =
        first :: ((others ++ ("(".toList ++ call.collection ++ ", ".toList ++
          (pointList ids).toList)) ++ [')']) := by
    simp [withPoints, shape]
  rw [text]
  exact Text.isTrimmed_between firstKept (by decide) _

end CollectionCall

/-- Blanks around a line do not count when it is expanded. -/
theorem Dispatcher.expand_trimmed
    (catalog : Catalog)
    (line : String) :
    expand catalog (trimmed line) = expand catalog line := by
  rw [expand, expand, trimmed_trimmed]

/-- An expanded line has no blanks at its ends. -/
theorem Dispatcher.trimmed_expand
    {catalog : Catalog}
    {line text : String}
    (expanded : expand catalog line = .ok text) :
    trimmed text = text := by
  have isTrimmed : Text.IsTrimmed text.toList := by
    have resolved :
        Text.IsTrimmed (ConnectCall.resolveMaterial catalog (trimmed line)).toList := by
      apply ConnectCall.isTrimmed_resolveMaterial
      rw [trimmed, String.toList_ofList]
      exact Text.isTrimmed_trim line.toList
    rcases CollectionCall.expandRanges_cases expanded with same | ⟨call, ids, read, written⟩
    · rw [same]
      exact resolved
    · rw [resolved.trim_eq] at read
      rw [written]
      exact CollectionCall.isTrimmed_withPoints resolved read ids
  exact isTrimmed.trimmed_eq

/-- A line that is not blank is noted as it is expanded. -/
theorem Dispatcher.dispatch_of_expanded
    {catalog : Catalog}
    {line text : String}
    (filled : isBlankText line = false)
    (expanded : expand catalog line = .ok text)
    (dispatcher : Dispatcher) :
    dispatcher.dispatch catalog line =
      .ok ((dispatcher.note (trimmed line) text).1,
        some (dispatcher.note (trimmed line) text).2) := by
  rw [dispatch, if_neg (by simp [filled])]
  dsimp only
  rw [expand_trimmed, expanded, Attempt.ok_bind]
  generalize dispatcher.note (trimmed line) text = noted
  rfl

end SceneEditor
