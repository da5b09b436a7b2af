import SceneEditor.Proofs.Line.WrittenRanges

namespace SceneEditor

open Attempt

/-!
# Materials that are written out

A connect call that names a material is written again with the color and the thickness of it.  When
the text that was written is read, its two ends are what they were, and the color and the thickness
together are the third argument.  This has a comma, so it is taken for a name only if it begins with
a quote, which is to say if the color does.
-/

/-- What stands for a material in a connect call that was written. -/
def Material.argument (material : Material) : List Char :=
  (commaList [material.color, material.thickness.wireText]).toList

/-- The color of the material begins with a quote. -/
def Material.IsQuoted (material : Material) : Prop :=
  ∃ quote rest,
    material.color.toList.dropWhile Text.isBlank = quote :: rest ∧ ConnectCall.isQuote quote = true

/-- A material is written as its color and its thickness. -/
theorem Material.argument_eq (material : Material) :
    material.argument =
      material.color.toList ++ ',' :: ' ' :: material.thickness.wireText.toList := by
  simp [argument, commaList]

/-- The argument of a material has no blanks in front that are not those of its color. -/
theorem Material.dropWhile_argument (material : Material) :
    material.argument.dropWhile Text.isBlank =
      material.color.toList.dropWhile Text.isBlank ++
        ',' :: ' ' :: material.thickness.wireText.toList := by
  rw [argument_eq]
  generalize ' ' :: material.thickness.wireText.toList = rest
  induction material.color.toList with
  | nil =>
      exact List.dropWhile_cons_of_neg (by decide)
  | cons c text inductionHypothesis =>
      by_cases blank : Text.isBlank c = true
      · rw [List.cons_append, List.dropWhile_cons_of_pos blank, List.dropWhile_cons_of_pos blank,
          inductionHypothesis]
      · rw [List.cons_append, List.dropWhile_cons_of_neg blank, List.dropWhile_cons_of_neg blank]
        rfl

namespace ConnectCall

/-- What a call that was recognized is made of. -/
structure WellFormed (call : ConnectCall) : Prop where
  sourceKept : Text.trim call.source = call.source
  targetKept : Text.trim call.target = call.target
  sourceEnds : ',' ∉ call.source
  targetEnds : ',' ∉ call.target

theorem WellFormed.of_ofText?
    {text : List Char}
    {call : ConnectCall}
    (read : ofText? text = some call) :
    call.WellFormed := by
  obtain ⟨⟨name, rest⟩, -, read⟩ := Option.bind_eq_some_iff.mp read
  obtain ⟨inner, -, read⟩ := Option.bind_eq_some_iff.mp read
  obtain ⟨⟨source, afterSource⟩, sourceCut, read⟩ := Option.bind_eq_some_iff.mp read
  obtain ⟨⟨target, afterTarget⟩, targetCut, read⟩ := Option.bind_eq_some_iff.mp read
  obtain ⟨material, -, read⟩ := Option.bind_eq_some_iff.mp read
  split at read
  · exact absurd read (by simp)
  · obtain rfl := Option.some.inj read
    exact {
      sourceKept := Text.trim_trim source
      targetKept := Text.trim_trim target
      sourceEnds := fun member =>
        CallText.notMem_of_cutBefore? sourceCut (Text.mem_of_mem_trim member)
      targetEnds := fun member =>
        CallText.notMem_of_cutBefore? targetCut (Text.mem_of_mem_trim member) }

/-!
## Reading a call that was written
-/

/-- The text of a call with its material, piece by piece. -/
theorem toList_withMaterial
    (call : ConnectCall)
    (material : Material) :
    (call.withMaterial material).wire.toList =
      "Connect".toList ++ '(' :: (call.source ++ ',' :: ' ' :: (call.target ++
        ',' :: ' ' :: (material.argument ++ [')']))) := by
  simp [withMaterial, Command.wire, Command.shape, Command.Shape.text, Material.argument, commaList]

/-- A written material is the last argument if it is on one line. -/
theorem lastArgument?_argument (material : Material) :
    lastArgument? (' ' :: (material.argument ++ [')'])) =
      if '\n' ∈ material.argument.dropWhile Text.isBlank then none
      else some (Text.trim material.argument) := by
  have ended : (' ' :: (material.argument ++ [')'])).getLast? = some ')' := by
    rw [← List.cons_append, List.getLast?_concat]
  have inside : (' ' :: (material.argument ++ [')'])).dropLast = ' ' :: material.argument := by
    rw [← List.cons_append, List.dropLast_concat]
  have behindSpace :
      (' ' :: material.argument).dropWhile Text.isBlank =
        material.argument.dropWhile Text.isBlank :=
    List.dropWhile_cons_of_pos (by decide)
  have nonempty : material.argument.dropWhile Text.isBlank ≠ [] := by
    rw [material.dropWhile_argument]
    simp
  obtain ⟨first, rest, shape⟩ := List.exists_cons_of_ne_nil nonempty
  have kept := Text.trim_dropWhile material.argument
  rw [shape] at kept
  simp [lastArgument?, ended, inside, behindSpace, shape, kept]

/-- The call that was written is read again if it has a source and its material is on one line. -/
theorem ofText?_withMaterial
    {call : ConnectCall}
    (wellFormed : call.WellFormed)
    (material : Material) :
    ofText? (call.withMaterial material).wire.toList =
      if call.source = [] ∨ '\n' ∈ material.argument.dropWhile Text.isBlank then none
      else some { call with material := Text.trim material.argument } := by
  have name :
      CallText.takeName? "connect".toList "Connect".toList = some ("Connect".toList, []) := by
    decide
  have opened (rest : List Char) : CallText.afterMark? '(' ('(' :: rest) = some rest :=
    CallText.afterMark?_cons (by decide) rest
  have sourceCut := CallText.cutBefore?_append wellFormed.sourceEnds
    (' ' :: (call.target ++ ',' :: ' ' :: (material.argument ++ [')'])))
  have targetEnds : ',' ∉ ' ' :: call.target :=
    List.not_mem_cons_of_ne_of_not_mem (by decide) wellFormed.targetEnds
  have targetCut :
      CallText.cutBefore? ',' (' ' :: (call.target ++ ',' :: ' ' :: (material.argument ++ [')']))) =
        some (' ' :: call.target, ' ' :: (material.argument ++ [')'])) :=
    CallText.cutBefore?_append targetEnds _
  have targetKept : Text.trim (' ' :: call.target) = call.target := by
    rw [Text.trim_cons_of_blank (by decide), wellFormed.targetKept]
  simp only [ofText?, toList_withMaterial, CallText.takeName?_append name, opened, sourceCut,
    targetCut, lastArgument?_argument, Option.bind_eq_bind, Option.bind_some]
  by_cases manyLines : '\n' ∈ material.argument.dropWhile Text.isBlank
  · simp [manyLines]
  · by_cases sourceless : call.source = []
    · simp [manyLines, sourceless]
    · simp [manyLines, sourceless, targetKept, wellFormed.sourceKept]

/-- The text of a call tells its material from those that are written in another way. -/
theorem withMaterial_wire_inj
    {call : ConnectCall}
    {material other : Material} :
    (call.withMaterial material).wire = (call.withMaterial other).wire ↔
      material.argument = other.argument := by
  rw [← String.toList_inj, toList_withMaterial, toList_withMaterial]
  simp

/-- What was written for a material is taken for a name exactly if its color begins with a quote. -/
theorem namesMaterial_argument
    (call : ConnectCall)
    (material : Material) :
    namesMaterial { call with material := Text.trim material.argument } = true ↔
      material.IsQuoted := by
  -- the comma in front of the thickness is always there, so the quote alone decides
  have comma : ',' ∈ Text.trim material.argument :=
    Text.mem_trim_of_mem (by decide) (by simp [material.argument_eq])
  have first :
      (Text.trim material.argument).head? =
        some ((material.color.toList.dropWhile Text.isBlank).head?.getD ',') := by
    rw [Text.head?_trim, material.dropWhile_argument]
    cases material.color.toList.dropWhile Text.isBlank <;> rfl
  simp only [namesMaterial, List.contains_iff_mem.mpr comma, first]
  cases shape : material.color.toList.dropWhile Text.isBlank with
  | nil =>
      simp [Material.IsQuoted, shape, isQuote]
  | cons quote rest =>
      simp [Material.IsQuoted, shape]

end ConnectCall

/--
What is written for the material is taken for the name of the other one: its color begins with a
quote, no line ends in it, and without its quotes it is the name of a material that is written in
another way.
-/
structure Catalog.Misreads (catalog : Catalog) (material other : Material) : Prop where
  quoted : material.IsQuoted
  oneLine : '\n' ∉ material.argument.dropWhile Text.isBlank
  found :
    catalog.findName? (String.ofList
      ((Text.trim material.argument).filter fun c => !ConnectCall.isQuote c)) = some other
  different : other.argument ≠ material.argument

/-- A call that was written is left alone unless its material is misread. -/
theorem ConnectCall.resolveMaterial_withMaterial_iff
    {call : ConnectCall}
    (wellFormed : call.WellFormed)
    (catalog : Catalog)
    (material : Material) :
    resolveMaterial catalog (call.withMaterial material).wire = (call.withMaterial material).wire ↔
      ¬ (call.source ≠ [] ∧ ∃ other, catalog.Misreads material other) := by
  have isTrimmed := (call.isTrimmed_withMaterial material).trim_eq
  have read := ofText?_withMaterial wellFormed material
  by_cases unreadable : call.source = [] ∨ '\n' ∈ material.argument.dropWhile Text.isBlank
  · -- what was written is no call any more
    rw [if_pos unreadable] at read
    have misread : ¬ (call.source ≠ [] ∧ ∃ other, catalog.Misreads material other) := by
      rintro ⟨sourced, other, misreads⟩
      exact unreadable.elim sourced misreads.oneLine
    refine iff_of_true (resolveMaterial_eq_text ?_) misread
    rintro ⟨again, other, names⟩
    rw [isTrimmed] at names
    exact absurd (read.symm.trans names.read) (by simp)
  · rw [if_neg unreadable] at read
    obtain ⟨sourced, oneLine⟩ := not_or.mp unreadable
    -- it is one call, so there is one name that can be looked up a second time
    by_cases named : ∃ other, Names catalog (Text.trim (call.withMaterial material).wire.toList)
      { call with material := Text.trim material.argument } other
    · obtain ⟨other, names⟩ := named
      have quoted := (namesMaterial_argument call material).mp names.isName
      have wire : resolveMaterial catalog (call.withMaterial material).wire =
          (call.withMaterial other).wire := names.resolveMaterial_eq
      rw [wire, withMaterial_wire_inj]
      constructor
      · rintro same ⟨-, another, misreads⟩
        obtain rfl := Option.some.inj (names.found.symm.trans misreads.found)
        exact misreads.different same
      · intro noMisread
        by_contra different
        exact noMisread ⟨sourced, other, quoted, oneLine, names.found, different⟩
    · refine iff_of_true (resolveMaterial_eq_text ?_) ?_
      · rintro ⟨again, other, names⟩
        have same := names.read
        rw [isTrimmed, read] at same
        obtain rfl := Option.some.inj same
        exact named ⟨other, names⟩
      · rintro ⟨-, other, misreads⟩
        refine named ⟨other, ?_, (namesMaterial_argument call material).mpr misreads.quoted,
          misreads.found⟩
        rw [isTrimmed, read]

/-!
## Lines that are expanded again
-/

/-- A call that was written is no call on a collection. -/
theorem CollectionCall.expandRanges_withMaterial
    (call : ConnectCall)
    (material : Material) :
    expandRanges (call.withMaterial material).wire = .ok (call.withMaterial material).wire := by
  rw [expandRanges, (call.isTrimmed_withMaterial material).trim_eq, ofText?_withMaterial]

/-- A call on a collection names no material. -/
theorem ConnectCall.resolveMaterial_of_collection
    {text : String}
    {call : CollectionCall}
    (read : CollectionCall.ofText? (Text.trim text.toList) = some call)
    (catalog : Catalog) :
    resolveMaterial catalog text = text := by
  refine resolveMaterial_eq_text ?_
  rintro ⟨connect, material, names⟩
  exact absurd ((CollectionCall.ofText?_of_connect names.read).symm.trans read) (by simp)

namespace Dispatcher

open ConnectCall

/-- The line names a material, and what is written for it is read as the name of another. -/
def IsMisread (catalog : Catalog) (line : String) : Prop :=
  ∃ call material other,
    Names catalog (Text.trim line.toList) call material ∧
      call.source ≠ [] ∧ catalog.Misreads material other

/-- Where a material is named, the call is written again and nothing else is done. -/
theorem expand_of_names
    {catalog : Catalog}
    {line : String}
    {call : ConnectCall}
    {material : Material}
    (names : Names catalog (Text.trim line.toList) call material) :
    expand catalog line = .ok (call.withMaterial material).wire := by
  have resolved :
      resolveMaterial catalog (trimmed line) = (call.withMaterial material).wire := by
    apply Names.resolveMaterial_eq
    rw [trimmed, String.toList_ofList, Text.trim_trim]
    exact names
  rw [expand, resolved, CollectionCall.expandRanges_withMaterial]

/-- Where none is named, only ranges are written out. -/
theorem expand_of_nameless
    {catalog : Catalog}
    {line : String}
    (nameless : ¬ ∃ call material, Names catalog (Text.trim line.toList) call material) :
    expand catalog line = CollectionCall.expandRanges (trimmed line) := by
  rw [expand, resolveMaterial_eq_text]
  rw [trimmed, String.toList_ofList, Text.trim_trim]
  exact nameless

/-- A call that was written is expanded to what its material is resolved to. -/
theorem expand_withMaterial
    (catalog : Catalog)
    (call : ConnectCall)
    (material : Material) :
    expand catalog (call.withMaterial material).wire =
      .ok (resolveMaterial catalog (call.withMaterial material).wire) := by
  have kept : trimmed (call.withMaterial material).wire = (call.withMaterial material).wire := by
    exact (call.isTrimmed_withMaterial material).trimmed_eq
  rw [expand, kept]
  rcases resolveMaterial_cases catalog (call.withMaterial material).wire with
    same | ⟨again, other, -, wire⟩
  · rw [same, CollectionCall.expandRanges_withMaterial]
  · rw [wire, CollectionCall.expandRanges_withMaterial]

/-- A line that names no material is expanded once and for all. -/
theorem expand_expanded_of_nameless
    {catalog : Catalog}
    {line text : String}
    (nameless : ¬ ∃ call material, Names catalog (Text.trim line.toList) call material)
    (expanded : expand catalog line = .ok text) :
    expand catalog text = .ok text := by
  have kept := trimmed_expand expanded
  rw [expand_of_nameless nameless] at expanded
  have settled := CollectionCall.expandRanges_of_expanded expanded
  rcases CollectionCall.expandRanges_cases expanded with rfl | ⟨call, ids, read, rfl⟩
  · rw [expand_trimmed, expand_of_nameless nameless, settled]
  · have again : CollectionCall.ofText? (Text.trim (call.withPoints ids).toList) =
        some (call.withList ids) := by
      have isTrimmed := CollectionCall.isTrimmed_withPoints (Text.isTrimmed_trim _) read ids
      rw [isTrimmed.trim_eq, CollectionCall.ofText?_withPoints read]
    rw [expand, kept, resolveMaterial_of_collection again, settled]

/-- To expand a line twice is to expand it once, unless it is misread the second time. -/
theorem expand_expand_iff
    (catalog : Catalog)
    (line : String) :
    (expand catalog line >>= expand catalog) = expand catalog line ↔ ¬ IsMisread catalog line := by
  by_cases named : ∃ call material, Names catalog (Text.trim line.toList) call material
  · obtain ⟨call, material, names⟩ := named
    have misread :
        IsMisread catalog line ↔ call.source ≠ [] ∧ ∃ other, catalog.Misreads material other := by
      constructor
      · rintro ⟨sameCall, sameMaterial, other, sameNames, sourced, misreads⟩
        obtain rfl := Option.some.inj (names.read.symm.trans sameNames.read)
        obtain rfl := Option.some.inj (names.found.symm.trans sameNames.found)
        exact ⟨sourced, other, misreads⟩
      · rintro ⟨sourced, other, misreads⟩
        exact ⟨call, material, other, names, sourced, misreads⟩
    have twice :
        (expand catalog line >>= expand catalog) =
          .ok (resolveMaterial catalog (call.withMaterial material).wire) := by
      rw [expand_of_names names, ok_bind, expand_withMaterial]
    rw [twice, expand_of_names names, misread,
      ← resolveMaterial_withMaterial_iff (.of_ofText? names.read) catalog material,
      Except.ok.injEq]
  · refine iff_of_true ?_ ?_
    · cases expanded : expand catalog line with
      | error failure =>
          rfl
      | ok text =>
          rw [ok_bind, expand_expanded_of_nameless named expanded]
    · rintro ⟨call, material, other, names, -⟩
      exact named ⟨call, material, names⟩

/-- Nothing is misread where no color begins with a quote. -/
theorem not_isMisread_of_unquoted
    {catalog : Catalog}
    (unquoted : ∀ material ∈ catalog.materials, ¬ material.IsQuoted)
    (line : String) :
    ¬ IsMisread catalog line := by
  rintro ⟨call, material, other, names, -, misreads⟩
  exact unquoted material (List.mem_of_find?_eq_some names.found) misreads.quoted

/-!
## Lines that are submitted again
-/

/-- A line that is not blank does not become so when it is expanded. -/
theorem isBlankText_of_expanded
    {catalog : Catalog}
    {line text : String}
    (filled : isBlankText line = false)
    (expanded : expand catalog line = .ok text) :
    isBlankText text = false := by
  have visible {c : Char} {written : String} (member : c ∈ written.toList)
      (visible : Text.isBlank c = false) : isBlankText written = false :=
    List.all_eq_false.mpr ⟨c, member, by simp [visible]⟩
  by_cases named : ∃ call material, Names catalog (Text.trim line.toList) call material
  · obtain ⟨call, material, names⟩ := named
    obtain rfl := Except.ok.inj ((expand_of_names names).symm.trans expanded)
    exact visible (c := '(') (by simp [toList_withMaterial]) (by decide)
  · rw [expand_of_nameless named] at expanded
    rcases CollectionCall.expandRanges_cases expanded with rfl | ⟨call, ids, -, rfl⟩
    · obtain ⟨c, member, kept⟩ := List.all_eq_false.mp filled
      have kept : Text.isBlank c = false := by simpa using kept
      refine visible ?_ kept
      rw [trimmed, String.toList_ofList]
      exact Text.mem_trim_of_mem kept member
    · exact visible (c := '(') (by simp [CollectionCall.toList_withPoints]) (by decide)

/-- A line that was dispatched is not blank and could be expanded. -/
theorem expanded_of_dispatch
    {dispatcher next : Dispatcher}
    {catalog : Catalog}
    {line : String}
    {dispatched : Dispatched}
    (succeeds : dispatcher.dispatch catalog line = .ok (next, some dispatched)) :
    isBlankText line = false ∧
      ∃ text,
        expand catalog line = .ok text ∧
          dispatched = (dispatcher.note (trimmed line) text).2 := by
  cases filled : isBlankText line with
  | true =>
      rw [dispatch, if_pos filled] at succeeds
      exact absurd (Except.ok.inj succeeds) (by simp)
  | false =>
      cases expanded : expand catalog line with
      | error failure =>
          rw [dispatch, filled, if_neg Bool.false_ne_true] at succeeds
          dsimp only at succeeds
          rw [expand_trimmed, expanded] at succeeds
          exact absurd succeeds (by simp [bind, Except.bind])
      | ok text =>
          rw [dispatch_of_expanded filled expanded] at succeeds
          exact ⟨rfl, text, rfl, (Option.some.inj (Prod.mk.inj (Except.ok.inj succeeds)).2).symm⟩

/-- What becomes of a text does not depend on what was dispatched before, or how it was typed. -/
theorem published_note
    (dispatcher other : Dispatcher)
    (typed otherTyped text : String) :
    (dispatcher.note typed text).2.published = (other.note otherTyped text).2.published := by
  unfold note
  dsimp only
  cases LocalOrder.ofText? (lowered (trimmed text)) <;> rfl

/-- The text of an outcome is what was noted. -/
theorem text_note
    (dispatcher : Dispatcher)
    (typed text : String) :
    (dispatcher.note typed text).2.text = text := by
  unfold note
  dsimp only
  cases LocalOrder.ofText? (lowered (trimmed text)) <;> rfl

/-- What was dispatched can be submitted again, and is then published as it stands. -/
theorem dispatch_again
    {dispatcher next : Dispatcher}
    {catalog : Catalog}
    {line : String}
    {dispatched : Dispatched}
    (settled : ¬ IsMisread catalog line)
    (succeeds : dispatcher.dispatch catalog line = .ok (next, some dispatched))
    (other : Dispatcher) :
    ∃ later again,
      other.dispatch catalog dispatched.text = .ok (later, some again) ∧
        again.text = dispatched.text ∧ again.published = dispatched.published := by
  obtain ⟨filled, text, expanded, shape⟩ := expanded_of_dispatch succeeds
  have again : expand catalog text = .ok text := by
    have twice := (expand_expand_iff catalog line).mpr settled
    rwa [expanded, ok_bind] at twice
  have dispatchedAgain :=
    dispatch_of_expanded (isBlankText_of_expanded filled expanded) again other
  have same := text_note other (trimmed text) text
  have published := published_note other dispatcher (trimmed text) (trimmed line) text
  rw [shape, text_note]
  generalize other.note (trimmed text) text = noted at dispatchedAgain same published
  exact ⟨noted.1, noted.2, dispatchedAgain, same, published⟩

/--
A line is expanded once and for all, and published again as it stands, unless what is written for
its material is misread.  That takes a color that begins with a quote.
-/
theorem expand_settles
    (catalog : Catalog)
    (line : String) :
    ((expand catalog line >>= expand catalog) = expand catalog line ↔
        ¬ IsMisread catalog line) ∧
      ((∀ material ∈ catalog.materials, ¬ material.IsQuoted) → ¬ IsMisread catalog line) ∧
      (¬ IsMisread catalog line →
        ∀ dispatcher next dispatched other,
          dispatch dispatcher catalog line = .ok (next, some dispatched) →
            ∃ later again,
              dispatch other catalog dispatched.text = .ok (later, some again) ∧
                again.text = dispatched.text ∧ again.published = dispatched.published) :=
  ⟨expand_expand_iff catalog line, fun unquoted => not_isMisread_of_unquoted unquoted line,
    fun settled _ _ _ other succeeds => dispatch_again settled succeeds other⟩

/-- A material whose color begins with a quote, and one of the name that is written for it. -/
def quotedCatalog : Catalog where
  nextId := 3
  materials := [
    { id := "00000001", name := "Material 1", color := "\"x\"", thickness := .int 2 },
    { id := "00000002", name := "x, 2", color := "#ffffff", thickness := .int 3 }
  ]

/-- One line of two is misread: the color of the material that it names begins with a quote. -/
theorem expand_settles_quoted :
    IsMisread quotedCatalog "Connect(p0, p1, Material 1)" ∧
      ¬ IsMisread quotedCatalog "Connect(p0, p1, 'x, 2')" := by
  constructor
  · by_contra settled
    have twice := (expand_settles quotedCatalog "Connect(p0, p1, Material 1)").1.mpr settled
    exact absurd twice (by decide)
  · exact (expand_settles quotedCatalog "Connect(p0, p1, 'x, 2')").1.mp (by decide)

/-- Expanded again, the call is written for the other material. -/
theorem expand_quotedCatalog :
    expand quotedCatalog "Connect(p0, p1, Material 1)" = .ok "Connect(p0, p1, \"x\", 2)" ∧
      expand quotedCatalog "Connect(p0, p1, \"x\", 2)" = .ok "Connect(p0, p1, #ffffff, 3)" := by
  decide

end Dispatcher

end SceneEditor
