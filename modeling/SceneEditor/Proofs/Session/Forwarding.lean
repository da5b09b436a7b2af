import SceneEditor.Proofs.Line.CallShape
import SceneEditor.Proofs.Line.WrittenMaterials
import SceneEditor.Proofs.Session.LineLog

namespace SceneEditor

open Attempt

/-!
# What is forwarded

A line is published as it was typed, without the blanks around it, unless it is one of two calls:
a connect call that names a material, or a call on a collection with ranges.  Which lines those
are, and what is published in their place, is said by the shapes of the calls.
-/

namespace PointRange

/-- The texts name these points, each text its own ones. -/
def Name (tokens : List (List Char)) (idLists : List (List Int)) : Prop :=
  List.Forall₂ (fun token ids => expand? (String.ofList token) = .ok (some ids)) tokens idLists

/-- Members are expanded to what they name, one behind the other. -/
theorem expandAll?_eq_ok_iff
    {tokens : List (List Char)}
    {ids : List Int} :
    expandAll? tokens = .ok (some ids) ↔ ∃ idLists, Name tokens idLists ∧ ids = idLists.flatten := by
  induction tokens generalizing ids with
  | nil =>
      constructor
      · intro read
        exact ⟨[], .nil, (Option.some.inj (Except.ok.inj read)).symm⟩
      · rintro ⟨idLists, named, rfl⟩
        cases named
        rfl
  | cons token others inductionHypothesis =>
      rw [expandAll?]
      constructor
      · intro read
        obtain ⟨first?, firstRead, read⟩ := bind_eq_ok_iff.mp read
        cases first? with
        | none =>
            exact absurd (Except.ok.inj read) (by simp)
        | some first =>
            obtain ⟨rest?, restRead, shape⟩ := bind_eq_ok_iff.mp read
            obtain ⟨rest, rfl, rfl⟩ := Option.map_eq_some_iff.mp (Except.ok.inj shape)
            obtain ⟨idLists, named, rfl⟩ := inductionHypothesis.mp restRead
            exact ⟨first :: idLists, .cons firstRead named, rfl⟩
      · rintro ⟨idLists, named, rfl⟩
        cases named with
        | cons firstRead named =>
            have restRead := inductionHypothesis.mpr ⟨_, named, rfl⟩
            rw [firstRead, ok_bind]
            simp only [restRead, ok_bind]
            rfl

end PointRange

namespace Dispatcher

/-- The material is the first of the catalog that has the name, in whichever letter case. -/
def IsFirstNamed
    (catalog : Catalog)
    (name : String)
    (material : Material) :
    Prop :=
  ∃ before after, catalog.materials = before ++ material :: after ∧
    lowered material.name = lowered (trimmed name) ∧
    ∀ earlier ∈ before, lowered earlier.name ≠ lowered (trimmed name)

/-- A material is found if it is the first of its name. -/
theorem findName?_eq_some_iff
    {catalog : Catalog}
    {name : String}
    {material : Material} :
    catalog.findName? name = some material ↔ IsFirstNamed catalog name material := by
  rw [Catalog.findName?, List.find?_eq_some_iff_append]
  constructor
  · rintro ⟨named, before, after, shape, others⟩
    refine ⟨before, after, shape, beq_iff_eq.mp named, fun earlier isBefore => ?_⟩
    simpa using others earlier isBefore
  · rintro ⟨before, after, shape, named, others⟩
    refine ⟨beq_iff_eq.mpr named, before, after, shape, fun earlier isBefore => ?_⟩
    simpa using others earlier isBefore

/--
The text that is written in the place of a line without blanks around it: a connect call with the
color and the thickness of the material that the third argument names, or a call on a collection
with every point of its list by itself.
-/
inductive Rewrites
    (catalog : Catalog)
    (line : List Char) :
    String → Prop where
  | material {call : ConnectCall} {material : Material}
      (reads : ConnectCall.Reads line call)
      (isName : ',' ∉ call.material ∨ ∃ quote ∈ ['"', '\''], call.material.head? = some quote)
      (isFirst : IsFirstNamed catalog
        (String.ofList (call.material.filter fun c => c ≠ '"' ∧ c ≠ '\'')) material) :
      Rewrites catalog line
        (Command.connect (String.ofList call.source) (String.ofList call.target) material.color
          material.thickness).wire
  | points {call : CollectionCall} {idLists : List (List Int)}
      (reads : CollectionCall.Reads line call)
      (ranged : ['.', '.'] <:+: call.body)
      (named : PointRange.Name (Text.pieces ',' call.body) idLists) :
      Rewrites catalog line
        (String.ofList call.command ++ "(" ++ String.ofList call.collection ++ ", " ++
          pointList idLists.flatten ++ ")")

/-- A call names a material where it has no comma or begins with a quote. -/
theorem namesMaterial_iff (call : ConnectCall) :
    call.namesMaterial = true ↔
      ',' ∉ call.material ∨ ∃ quote ∈ ['"', '\''], call.material.head? = some quote := by
  unfold ConnectCall.namesMaterial
  rw [Bool.or_eq_true, Bool.not_eq_true', List.contains_eq_mem, decide_eq_false_iff_not]
  refine or_congr_right ?_
  cases call.material.head? with
  | none =>
      simp
  | some first =>
      simp [ConnectCall.isQuote]

/-- The name of a material is what is left without quotes. -/
theorem materialName_eq (call : ConnectCall) :
    call.materialName =
      String.ofList (call.material.filter fun c => c ≠ '"' ∧ c ≠ '\'') := by
  unfold ConnectCall.materialName
  congr 1
  refine List.filter_congr fun c _ => ?_
  simp [ConnectCall.isQuote]

/-- A line names a material if it is read as a call that does. -/
theorem names_iff
    {catalog : Catalog}
    {line : List Char}
    {call : ConnectCall}
    {material : Material} :
    ConnectCall.Names catalog line call material ↔
      ConnectCall.Reads line call ∧
        (',' ∉ call.material ∨ ∃ quote ∈ ['"', '\''], call.material.head? = some quote) ∧
        IsFirstNamed catalog
          (String.ofList (call.material.filter fun c => c ≠ '"' ∧ c ≠ '\'')) material := by
  rw [← materialName_eq]
  constructor
  · rintro ⟨read, isName, found⟩
    exact ⟨ConnectCall.ofText?_eq_some_iff.mp read, (namesMaterial_iff call).mp isName,
      findName?_eq_some_iff.mp found⟩
  · rintro ⟨reads, isName, isFirst⟩
    exact ⟨ConnectCall.ofText?_eq_some_iff.mpr reads, (namesMaterial_iff call).mpr isName,
      findName?_eq_some_iff.mpr isFirst⟩

/-- A line is ranged if two dots stand in a list of which each member is read. -/
theorem isRanged_iff
    {line : List Char}
    {call : CollectionCall}
    {ids : List Int} :
    CollectionCall.IsRanged line call ids ↔
      CollectionCall.Reads line call ∧ ['.', '.'] <:+: call.body ∧
        ∃ idLists, PointRange.Name (Text.pieces ',' call.body) idLists ∧
          ids = idLists.flatten := by
  have listed (ranged : Text.occurs ['.', '.'] call.body = true) :
      PointRange.expandList? (String.ofList call.body) =
        PointRange.expandAll? (Text.pieces ',' call.body) := by
    rw [PointRange.expandList?, String.toList_ofList, CollectionCall.all_isBlank_of_occurs ranged,
      if_neg Bool.false_ne_true]
  constructor
  · rintro ⟨read, ranged, list⟩
    rw [listed ranged] at list
    exact ⟨CollectionCall.ofText?_eq_some_iff.mp read, (Text.occurs_iff_isInfix _ _).mp ranged,
      PointRange.expandAll?_eq_ok_iff.mp list⟩
  · rintro ⟨reads, isInfix, named⟩
    have ranged := (Text.occurs_iff_isInfix _ _).mpr isInfix
    refine ⟨CollectionCall.ofText?_eq_some_iff.mpr reads, ranged, ?_⟩
    rw [listed ranged]
    exact PointRange.expandAll?_eq_ok_iff.mpr named

/-- A line that is a call with ranges is expanded to the call with the points written out. -/
theorem expand_of_isRanged
    {catalog : Catalog}
    {line : String}
    {call : CollectionCall}
    {ids : List Int}
    (isRanged : CollectionCall.IsRanged (Text.trim line.toList) call ids) :
    expand catalog line = .ok (call.withPoints ids) := by
  rw [expand_of_nameless]
  · refine CollectionCall.IsRanged.expandRanges_eq ?_
    rw [trimmed, String.toList_ofList, Text.trim_trim]
    exact isRanged
  · rintro ⟨connect, material, names⟩
    have noConnect := ConnectCall.ofText?_of_collection isRanged.read
    exact absurd (noConnect.symm.trans names.read) (by simp)

/-- A line that is no connect call and has no ranges is left alone. -/
theorem expand_of_plain
    {line : String}
    (noConnect : ConnectCall.ofText? (Text.trim line.toList) = none)
    (fits : ¬ CollectionCall.NamesTooMany (Text.trim line.toList))
    (unranged : ∀ call ids, ¬ CollectionCall.IsRanged (Text.trim line.toList) call ids)
    (catalog : Catalog) :
    expand catalog line = .ok (trimmed line) := by
  obtain ⟨text, expanded⟩ := (expand_failsIf catalog line).succeeds fits
  have nameless :
      ¬ ∃ call material, ConnectCall.Names catalog (Text.trim line.toList) call material := by
    rintro ⟨call, material, names⟩
    exact absurd (noConnect.symm.trans names.read) (by simp)
  have ranges := expanded
  rw [expand_of_nameless nameless] at ranges
  rw [expanded, CollectionCall.expandRanges_eq_text ranges]
  rw [trimmed, String.toList_ofList, Text.trim_trim]
  rintro ⟨call, ids, isRanged⟩
  exact unranged call ids isRanged

/-- A text that may be written in the place of a line is what the line is expanded to. -/
theorem Rewrites.expand_eq
    {catalog : Catalog}
    {line text : String}
    (rewrites : Rewrites catalog (Text.trim line.toList) text) :
    expand catalog line = .ok text := by
  cases rewrites with
  | material reads isName isFirst =>
      exact expand_of_names (names_iff.mpr ⟨reads, isName, isFirst⟩)
  | points reads ranged named =>
      exact expand_of_isRanged (isRanged_iff.mpr ⟨reads, ranged, _, named, rfl⟩)

/-- A line in whose place nothing may be written is left alone. -/
theorem eq_trimmed_of_not_rewrites
    {catalog : Catalog}
    {line text : String}
    (expanded : expand catalog line = .ok text)
    (never : ∀ other, ¬ Rewrites catalog (Text.trim line.toList) other) :
    text = trimmed line := by
  rw [expand_of_nameless] at expanded
  · refine CollectionCall.expandRanges_eq_text expanded ?_
    rintro ⟨call, ids, isRanged⟩
    rw [trimmed, String.toList_ofList, Text.trim_trim] at isRanged
    obtain ⟨reads, ranged, idLists, named, rfl⟩ := isRanged_iff.mp isRanged
    exact never _ (.points reads ranged named)
  · rintro ⟨call, material, names⟩
    obtain ⟨reads, isName, isFirst⟩ := names_iff.mp names
    exact never _ (.material reads isName isFirst)

end Dispatcher

namespace Session

open Dispatcher

/--
A line that is not blank is forwarded.  Unless it is an order to this program, one text is
published: the one that may be written in its place, of which there is one at most, or the line
itself without the blanks around it.  Only a range of more points than a list may have
keeps a line from being forwarded, and then nothing is.
-/
theorem dispatch_forwards
    (session : Session)
    {line : String}
    (filled : isBlankText line = false) :
    (CollectionCall.NamesTooMany (Text.trim line.toList) →
      (session.dispatch line).result = .error .rangeTooLong ∧
        (session.dispatch line).effects = []) ∧
    (¬ CollectionCall.NamesTooMany (Text.trim line.toList) →
      ∃ text, Dispatcher.expand session.catalog line = .ok text ∧
        (session.dispatch line).effects =
          (if LineText.isLocal text then [] else [.published text]) ∧
        (∀ other, Rewrites session.catalog (Text.trim line.toList) other → text = other) ∧
        ((∀ other, ¬ Rewrites session.catalog (Text.trim line.toList) other) →
          text = trimmed line)) := by
  have failsIf := expand_failsIf session.catalog line
  constructor
  · intro tooMany
    refine ⟨(session.dispatch_failsIf line).fails tooMany, ?_⟩
    refine (session.dispatch_of_noText ?_).2
    rw [DispatcherCall.text?, if_neg (by simp [filled]), failsIf.fails tooMany]
    rfl
  · intro fits
    obtain ⟨text, expanded⟩ := failsIf.succeeds fits
    refine ⟨text, expanded, ?_, fun other rewrites => ?_, eq_trimmed_of_not_rewrites expanded⟩
    · have given : (DispatcherCall.dispatch session.catalog line).text? = some text := by
        rw [DispatcherCall.text?, if_neg (by simp [filled]), expanded]
        rfl
      rw [(session.dispatch_of_text? given).2,
        Dispatcher.note_published _ _ (trimmed_expand expanded)]
      split
      · rfl
      · rfl
    · exact Except.ok.inj (expanded.symm.trans rewrites.expand_eq)

/-- A name that no material has is forwarded with its quotes and commas. -/
theorem dispatch_forwards_unknownName :
    isBlankText " Connect(p0, p1, 'oak, old') " = false ∧
      ¬ CollectionCall.NamesTooMany (Text.trim " Connect(p0, p1, 'oak, old') ".toList) ∧
      (({} : Session).dispatch " Connect(p0, p1, 'oak, old') ").effects =
        [.published "Connect(p0, p1, 'oak, old')"] := by
  have filled : isBlankText " Connect(p0, p1, 'oak, old') " = false := by decide
  have fits : ¬ CollectionCall.NamesTooMany (Text.trim " Connect(p0, p1, 'oak, old') ".toList) :=
    CollectionCall.not_namesTooMany (by decide)
  obtain ⟨text, expanded, effects, -, -⟩ := (dispatch_forwards {} filled).2 fits
  have isLine :
      Dispatcher.expand {} " Connect(p0, p1, 'oak, old') " = .ok "Connect(p0, p1, 'oak, old')" := by
    decide
  obtain rfl := Except.ok.inj (expanded.symm.trans isLine)
  exact ⟨filled, fits, effects⟩

/-- A well-formed range can be too long for its line to be forwarded. -/
theorem dispatch_withholds_long :
    isBlankText "AddToCollection(hall, [p1..p99999999999999999999])" = false ∧
      LineText.isLocal "AddToCollection(hall, [p1..p99999999999999999999])" = false ∧
      (({} : Session).dispatch "AddToCollection(hall, [p1..p99999999999999999999])").effects =
        [] := by
  decide

end Session

end SceneEditor
