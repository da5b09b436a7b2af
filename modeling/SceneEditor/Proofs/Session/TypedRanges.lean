import SceneEditor.Proofs.Session.PanelLines

namespace SceneEditor

open CallText Attempt

/-!
# Ranges that are typed

A range is added to a collection in the panel or by a typed call, and either way the same text is
published and noted.  The panel expands the range first and writes the call; the typed call is written
and its range is expanded on the way.  Only what is malformed sets them apart: the panel ignores it,
and the prompt forwards it as it was typed.
-/

namespace CollectionCall

/-- A trimmed name stands in itself as a name. -/
theorem isNameIn_self
    {name : String}
    (filled : isBlankText name = false)
    (isTrimmed : trimmed name = name) :
    IsNameIn name.toList name.toList := by
  have kept : Text.trim name.toList = name.toList := by
    have characters := congrArg String.toList isTrimmed
    rwa [trimmed, String.toList_ofList] at characters
  have visible : Text.trim name.toList ≠ [] := by
    rw [kept]
    intro nothing
    rw [isBlankText, nothing] at filled
    exact absurd filled (by decide)
  have named := IsNameIn.trimmed visible
  rwa [kept] at named

/-- A call with a range alone in its list has that range written out. -/
theorem isRanged_of_expand?
    {text : List Char}
    {call : CollectionCall}
    (reads : Reads text call)
    (isInfix : ['.', '.'] <:+: call.body)
    (noComma : ',' ∉ call.body)
    {ids : List Int}
    (accepted : PointRange.expand? (String.ofList call.body) = .ok (some ids)) :
    IsRanged text call ids := by
  refine Dispatcher.isRanged_iff.mpr ⟨reads, isInfix, [ids], ?_, by simp⟩
  rw [Text.pieces_of_notMem noComma]
  exact .cons accepted .nil

/-- The points are written out as the command with the same collection writes them. -/
theorem withPoints_addToCollection
    (name : String)
    (body : List Char)
    (ids : List Int) :
    ({ command := "AddToCollection".toList, collection := name.toList, body } :
        CollectionCall).withPoints ids =
      (Command.addToCollection name ids).wire := by
  simp [withPoints, Command.wire, Command.shape, Command.Shape.text, commaList, String.append_assoc]

end CollectionCall

namespace Dispatcher

/-- A line that is read as a call with one malformed member is expanded to what was typed. -/
theorem expand_of_malformed
    {line : String}
    {call : CollectionCall}
    (reads : CollectionCall.Reads (Text.trim line.toList) call)
    (noComma : ',' ∉ call.body)
    (malformed : PointRange.expand? (String.ofList call.body) = .ok none)
    (catalog : Catalog) :
    expand catalog line = .ok (trimmed line) := by
  have read := CollectionCall.ofText?_eq_some_iff.mpr reads
  have pieces := Text.pieces_of_notMem noComma
  refine expand_of_plain (ConnectCall.ofText?_of_collection read) ?_ ?_ catalog
  · rintro ⟨other, otherRead, -, meets⟩
    obtain rfl := Option.some.inj (read.symm.trans otherRead)
    rw [pieces, ← List.nil_append [call.body], PointRange.meetsTooLong_append_iff malformed] at meets
    exact PointRange.meetsTooLong_nil meets
  · intro other ids isRanged
    obtain rfl := Option.some.inj (read.symm.trans isRanged.read)
    obtain ⟨named, wellFormed⟩ := isRanged.wellFormed call.body (by rw [pieces]; simp)
    exact absurd (wellFormed.symm.trans malformed) (by simp)

/-- What is noted of a text does not depend on how it was typed. -/
theorem note_fst
    (dispatcher : Dispatcher)
    (typed otherTyped text : String) :
    (dispatcher.note typed text).1 = (dispatcher.note otherTyped text).1 := by
  unfold note
  dsimp only
  cases LocalOrder.ofText? (lowered (trimmed text)) with
  | none =>
      rfl
  | some order =>
      rfl

end Dispatcher

namespace Session

/-- Lines that are expanded to the same text leave the same session. -/
theorem session_dispatch_eq
    (session : Session)
    {line other text : String}
    (given : (DispatcherCall.dispatch session.catalog line).text? = some text)
    (otherGiven : (DispatcherCall.dispatch session.catalog other).text? = some text) :
    (session.dispatch line).session = (session.dispatch other).session := by
  obtain ⟨filled, expanded⟩ := DispatcherCall.expand_of_text? given
  obtain ⟨otherFilled, otherExpanded⟩ := DispatcherCall.expand_of_text? otherGiven
  rw [dispatch, dispatch, Dispatcher.dispatch_of_expanded filled expanded,
    Dispatcher.dispatch_of_expanded otherFilled otherExpanded]
  dsimp only
  rw [Dispatcher.note_fst session.dispatcher (trimmed line) (trimmed other) text]

section

variable
  {name range line : String}
  (filled : isBlankText name = false)
  (isTrimmed : trimmed name = name)
  (whole : ∀ mark ∈ [',', '[', ']'], mark ∉ name.toList)
  (typed : trimmed line = "AddToCollection(" ++ name ++ ", [" ++ range ++ "])")

include typed in
/-- The typed line, without the blanks at its ends, is the written call. -/
theorem toList_typed :
    Text.trim line.toList =
      CollectionCall.written "AddToCollection".toList name.toList range.toList := by
  have characters := congrArg String.toList typed
  rw [trimmed, String.toList_ofList] at characters
  simp [characters, CollectionCall.written]

include filled isTrimmed whole typed in
/-- What is typed is read as the call with the range in its list. -/
theorem reads_typed (rangeWhole : ']' ∉ range.toList) :
    CollectionCall.Reads (Text.trim line.toList)
      { command := "AddToCollection".toList, collection := name.toList, body := range.toList } := by
  have isCommand : "addtocollection".toList ∈ CollectionCall.commands := by decide
  have spelled : Spells "addtocollection".toList "AddToCollection".toList :=
    .of_takeName? (by decide)
  rw [toList_typed typed]
  exact CollectionCall.reads_written isCommand spelled
    (CollectionCall.isNameIn_self filled isTrimmed) whole rangeWhole

include filled isTrimmed whole typed in
/-- The typed line is expanded to the command with the points of the range. -/
theorem expand_typed
    {ids : List Int}
    (accepted : PointRange.expand? range = .ok (some ids))
    (isInfix : ['.', '.'] <:+: range.toList)
    (catalog : Catalog) :
    Dispatcher.expand catalog line = .ok (Command.addToCollection name ids).wire := by
  obtain ⟨means, -⟩ := PointRange.expand?_eq_some_iff.mp accepted
  have noComma := means.notMem (by decide : ',' ∈ PointRange.listMarks)
  have rangeWhole := means.notMem (by decide : ']' ∈ PointRange.listMarks)
  have reads := reads_typed filled isTrimmed whole typed rangeWhole
  have isRanged := CollectionCall.isRanged_of_expand? reads isInfix noComma
    (by rwa [String.ofList_toList])
  rw [Dispatcher.expand_of_isRanged isRanged, CollectionCall.withPoints_addToCollection]

include filled isTrimmed whole typed in
/-- A range that is too long names too many points. -/
theorem namesTooMany_typed (tooLong : PointRange.TooLong range) :
    CollectionCall.NamesTooMany (Text.trim line.toList) := by
  obtain ⟨ids, means, -⟩ := PointRange.tooLong_iff.mp tooLong
  have noComma := means.notMem (by decide : ',' ∈ PointRange.listMarks)
  have rangeWhole := means.notMem (by decide : ']' ∈ PointRange.listMarks)
  have meets : PointRange.MeetsTooLong (Text.pieces ',' range.toList) := by
    rw [Text.pieces_of_notMem noComma, PointRange.meetsTooLong_cons_iff, String.ofList_toList]
    exact .inl tooLong
  have reads := reads_typed filled isTrimmed whole typed rangeWhole
  exact ⟨_, CollectionCall.ofText?_eq_some_iff.mpr reads,
    PointRange.occurs_of_meetsTooLong meets, meets⟩

include typed in
theorem isBlankText_typed :
    isBlankText line = false := by
  rw [Bool.eq_false_iff]
  intro blank
  have shape := toList_typed typed
  rw [Text.trim_of_all blank] at shape
  exact absurd shape (List.cons_ne_nil _ _).symm

include typed in
/-- What is typed is no order to this program. -/
theorem isLocal_typed :
    LineText.isLocal (trimmed line) = false := by
  have shape :
      (trimmed line).toList =
        'A' :: 'd' :: ("dToCollection".toList ++
          '(' :: (name.toList ++ ',' :: ' ' :: '[' :: (range.toList ++ [']', ')']))) := by
    rw [trimmed, String.toList_ofList, toList_typed typed]
    rfl
  exact LineText.isLocal_eq_false shape (by decide) (by decide)

include typed in
/-- The text that is given is the expanded line. -/
theorem text?_typed
    {catalog : Catalog}
    {text : String}
    (expanded : Dispatcher.expand catalog line = .ok text) :
    (DispatcherCall.dispatch catalog line).text? = some text := by
  rw [DispatcherCall.text?, isBlankText_typed typed, expanded]
  rfl

include whole in
/-- The panel has the call dispatched as it is written, and that is expanded to itself. -/
theorem text?_addToCollection
    (ids : List Int)
    (catalog : Catalog) :
    (DispatcherCall.dispatch catalog (Command.addToCollection name ids).wire).text? =
      some (Command.addToCollection name ids).wire := by
  have fits : ¬ (Command.addToCollection name ids).OpensTooMany := by
    rintro ⟨other, same, opens⟩
    obtain rfl := Option.some.inj same
    exact CollectionCall.not_opensTooMany (whole ',' (by decide)) opens
  exact Command.text?_wire rfl fits catalog

end

/--
A range is added to a collection alike in the panel and by what is typed: both publish the call with
the points written out and note it, and leave the same session behind.  What is malformed is ignored
in the panel and forwarded as it was typed, and a range of more points than a list may have
fails in both places.
-/
theorem addToCollection_agreesWithTyped
    (session : Session)
    {name range line : String}
    (filled : isBlankText name = false)
    (isTrimmed : trimmed name = name)
    (whole : ∀ mark ∈ [',', '[', ']'], mark ∉ name.toList)
    (typed : trimmed line = "AddToCollection(" ++ name ++ ", [" ++ range ++ "])") :
    let panel := session.addToCollection name range
    let prompt := session.dispatch line
    (∀ ids,
      PointRange.expand? range = .ok (some ids) →
        ['.', '.'] <:+: range.toList →
          panel.Forwards session (Command.addToCollection name ids).wire ∧
            prompt.Forwards session (Command.addToCollection name ids).wire ∧
            prompt.session = panel.session) ∧
    (PointRange.expand? range = .ok none →
      panel = session.only (.ok none) ∧
        (',' ∉ range.toList → ']' ∉ range.toList →
          prompt.Forwards session (trimmed line))) ∧
    ∀ error,
      PointRange.expand? range = .error error →
        panel = session.only (.error error) ∧ prompt = session.only (.error error) := by
  intro panel prompt
  refine ⟨fun ids accepted isInfix => ?_, fun malformed => ⟨?_, fun noComma rangeWhole => ?_⟩,
    fun error fails => ?_⟩
  · have leaves : LineText.isLocal (Command.addToCollection name ids).wire = false :=
      Command.isLocal_wire rfl
    have typedText := text?_typed typed
      (expand_typed filled isTrimmed whole typed accepted isInfix session.catalog)
    have panelText := text?_addToCollection whole ids session.catalog
    have sameLine : panel = session.dispatch (Command.addToCollection name ids).wire := by
      simp only [panel, addToCollection, accepted]
      rfl
    rw [sameLine]
    exact ⟨session.forwards_of_text? panelText leaves, session.forwards_of_text? typedText leaves,
      session.session_dispatch_eq typedText panelText⟩
  · simp only [panel, addToCollection, malformed]
  · have reads := reads_typed filled isTrimmed whole typed rangeWhole
    have expanded := Dispatcher.expand_of_malformed reads noComma
      (by rwa [String.ofList_toList]) session.catalog
    exact session.forwards_of_text? (text?_typed typed expanded) (isLocal_typed typed)
  · obtain ⟨rfl, tooLong⟩ := (PointRange.expand?_failsIf range error).mp fails
    refine ⟨?_, session.dispatch_of_namesTooMany ?_⟩
    · simp only [panel, addToCollection, fails]
    · exact namesTooMany_typed filled isTrimmed whole typed tooLong

/-- A range that counts downwards is typed with blanks and a capital letter. -/
theorem addToCollection_agreesWithTyped_downwards :
    let range := "p3...P1 "
    let line := "\tAddToCollection(hall, [p3...P1 ])"
    isBlankText "hall" = false ∧
      trimmed "hall" = "hall" ∧
      (∀ mark ∈ [',', '[', ']'], mark ∉ "hall".toList) ∧
      trimmed line = "AddToCollection(" ++ "hall" ++ ", [" ++ range ++ "])" ∧
      (({} : Session).addToCollection "hall" range).effects =
        [.published "AddToCollection(hall, [p1, p2, p3])"] ∧
      (({} : Session).dispatch line).effects =
        [.published "AddToCollection(hall, [p1, p2, p3])"] := by
  intro range line
  have filled : isBlankText "hall" = false := by decide
  have isTrimmed : trimmed "hall" = "hall" := by decide
  have whole : ∀ mark ∈ [',', '[', ']'], mark ∉ "hall".toList := Text.forall_of_all (by decide)
  have typed : trimmed line = "AddToCollection(" ++ "hall" ++ ", [" ++ range ++ "])" := by decide
  have accepted : PointRange.expand? range = .ok (some [1, 2, 3]) := by decide
  have isInfix : ['.', '.'] <:+: range.toList := ⟨['p', '3'], ['.', 'P', '1', ' '], by decide⟩
  have written :
      (Command.addToCollection "hall" [1, 2, 3]).wire = "AddToCollection(hall, [p1, p2, p3])" := by
    decide
  obtain ⟨agree, -⟩ := addToCollection_agreesWithTyped {} filled isTrimmed whole typed
  obtain ⟨panel, prompt, -⟩ := agree [1, 2, 3] accepted isInfix
  have panelEffects := panel.effects
  have promptEffects := prompt.effects
  rw [written] at panelEffects promptEffects
  exact ⟨filled, isTrimmed, whole, typed, panelEffects, promptEffects⟩

end Session

end SceneEditor
