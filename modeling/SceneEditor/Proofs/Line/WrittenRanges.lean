import SceneEditor.Proofs.Line.LongRange
import SceneEditor.Proofs.Line.PointList

namespace SceneEditor.CollectionCall

open Attempt

/-!
# Ranges that are written out

A call with ranges is written again with the same command and the same collection, and with every
point by itself.  The text that was written is recognized as that call, names the same points and
has no range, so nothing in it is written out a second time.
-/

/-- The names of two commands can be told apart. -/
theorem differ_of_mem_commands
    {name other : List Char}
    (member : name ∈ commands)
    (otherMember : other ∈ commands)
    (different : name ≠ other) :
    CallText.Differ name other := by
  simp only [commands, List.mem_cons, List.not_mem_nil, or_false] at member otherMember
  rcases member with rfl | rfl | rfl <;> rcases otherMember with rfl | rfl | rfl
  case inl.inl | inr.inl.inr.inl | inr.inr.inr.inr =>
    exact absurd rfl different
  case inl.inr.inl | inr.inl.inl =>
    exact .of_letters 3 rfl rfl (by decide) (by decide)
  all_goals
    exact .of_letters 0 rfl rfl (by decide) (by decide)

/-- A text that begins with the name of a command is a call of that command or none. -/
theorem ofText?_of_takeName?
    {name text command rest : List Char}
    (member : name ∈ commands)
    (taken : CallText.takeName? name text = some (command, rest)) :
    ofText? text = arguments? command rest := by
  have others {other : List Char} (otherMember : other ∈ commands) (different : name ≠ other) :
      CallText.takeName? other text = none :=
    (differ_of_mem_commands member otherMember different).takeName?_eq_none taken
  cases read : arguments? command rest with
  | none =>
      refine List.findSome?_eq_none_iff.mpr fun other otherMember => ?_
      by_cases same : name = other
      · rw [← same, taken]
        exact read
      · rw [others otherMember same]
        rfl
  | some call =>
      cases found : ofText? text with
      | none =>
          have missed := List.findSome?_eq_none_iff.mp found name member
          rw [taken] at missed
          exact absurd (missed.symm.trans read) (by simp)
      | some other =>
          obtain ⟨known, knownMember, readKnown⟩ := List.exists_of_findSome?_eq_some found
          by_cases same : name = known
          · rw [← same, taken] at readKnown
            exact readKnown.symm.trans read
          · rw [others knownMember same] at readKnown
            exact absurd readKnown (by simp)

/-- What a call that was recognized is made of. -/
structure WellFormed (call : CollectionCall) : Prop where
  nameKept : nameOf? call.collection = some call.collection
  noComma : ',' ∉ call.collection
  noBracket : (call.collection.any fun c => c = '[' || c = ']') = false
  bodyEnds : ']' ∉ call.body

/-- A name has no blanks around it that would be dropped again. -/
theorem nameOf?_of_nameOf?
    {text name : List Char}
    (named : nameOf? text = some name) :
    nameOf? name = some name := by
  unfold nameOf? at named
  split at named
  · obtain ⟨last, -, rfl⟩ := Option.map_eq_some_iff.mp named
    cases blank : Text.isBlank last <;>
      simp [nameOf?, Text.trim, Text.trimWhile, Text.dropEndWhile, blank]
  · next nonempty =>
    obtain rfl := Option.some.inj named
    rw [nameOf?, Text.trim_trim]
    split
    · next empty =>
      exact absurd empty nonempty
    · rfl

/-- A name is made of characters of the text. -/
theorem mem_of_nameOf?
    {text name : List Char}
    {c : Char}
    (named : nameOf? text = some name)
    (member : c ∈ name) :
    c ∈ text := by
  unfold nameOf? at named
  split at named
  · obtain ⟨last, isLast, rfl⟩ := Option.map_eq_some_iff.mp named
    obtain rfl := List.mem_singleton.mp member
    exact List.mem_of_getLast? isLast
  · obtain rfl := Option.some.inj named
    exact Text.mem_of_mem_trim member

theorem WellFormed.of_arguments?
    {command text : List Char}
    {call : CollectionCall}
    (read : arguments? command text = some call) :
    call.WellFormed := by
  obtain ⟨-, inner, name, afterComma, afterBracket, afterBody, nameCut, named, noBracket,
    bodyCut⟩ := arguments?_cases read
  exact {
    nameKept := nameOf?_of_nameOf? named
    noComma := fun member => CallText.notMem_of_cutBefore? nameCut (mem_of_nameOf? named member)
    noBracket := noBracket
    bodyEnds := CallText.notMem_of_cutBefore? bodyCut }

/-- The arguments of a call are read again from their text. -/
theorem WellFormed.arguments?_eq
    {call : CollectionCall}
    (wellFormed : call.WellFormed) :
    arguments? call.command
        ('(' :: (call.collection ++ ',' :: ' ' :: '[' :: (call.body ++ [']', ')']))) =
      some call := by
  have opened (rest : List Char) : CallText.afterMark? '(' ('(' :: rest) = some rest :=
    CallText.afterMark?_cons (by decide) rest
  have bracketed (rest : List Char) : CallText.afterMark? '[' (' ' :: '[' :: rest) = some rest := by
    rw [CallText.afterMark?_cons_of_blank (by decide), CallText.afterMark?_cons (by decide)]
  have closed : CallText.afterMark? ')' [')'] = some [] :=
    CallText.afterMark?_cons (by decide) []
  have nameCut := CallText.cutBefore?_append wellFormed.noComma
    (' ' :: '[' :: (call.body ++ [']', ')']))
  have bodyCut := CallText.cutBefore?_append wellFormed.bodyEnds [')']
  rw [arguments?, opened]
  simp only [Option.bind_eq_bind, Option.bind_some, nameCut, wellFormed.nameKept,
    wellFormed.noBracket, Bool.false_eq_true, if_false, bracketed, bodyCut, closed]
  rfl

/-!
## The call that was written
-/

/-- The same call with other points, each by itself. -/
def withList (call : CollectionCall) (ids : List Int) : CollectionCall :=
  { call with body := (commaList (ids.map pointRef)).toList }

/-- The text of a call with its points, piece by piece. -/
theorem toList_withPoints
    (call : CollectionCall)
    (ids : List Int) :
    (call.withPoints ids).toList =
      call.command ++
        '(' :: (call.collection ++
          ',' :: ' ' :: '[' :: ((call.withList ids).body ++ [']', ')'])) := by
  simp [withPoints, pointList, withList]

theorem WellFormed.withList
    {call : CollectionCall}
    (wellFormed : call.WellFormed)
    (ids : List Int) :
    (call.withList ids).WellFormed :=
  { wellFormed with bodyEnds := notMem_commaList (by decide) ids }

/-- The text that was written is recognized as the call that it was written from. -/
theorem ofText?_withPoints
    {text : List Char}
    {call : CollectionCall}
    (read : ofText? text = some call)
    (ids : List Int) :
    ofText? (call.withPoints ids).toList = some (call.withList ids) := by
  obtain ⟨name, member, read⟩ := List.exists_of_findSome?_eq_some read
  obtain ⟨⟨command, rest⟩, taken, arguments⟩ := Option.bind_eq_some_iff.mp read
  obtain rfl := (arguments?_cases arguments).1
  have written := ((WellFormed.of_arguments? arguments).withList ids).arguments?_eq
  rw [toList_withPoints, ofText?_of_takeName? member (CallText.takeName?_append taken _)]
  exact written

/-- A list that was written has no range. -/
theorem occurs_withList
    (call : CollectionCall)
    (ids : List Int) :
    Text.occurs ['.', '.'] (call.withList ids).body = false :=
  Text.occurs_of_notMem (notMem_commaList (by decide) ids)

/-- A list that was written names the points that were read from the one in its place. -/
theorem expandList?_withList
    {call : CollectionCall}
    {ids : List Int}
    (listed : PointRange.expandList? (String.ofList call.body) = .ok (some ids)) :
    PointRange.expandList? (String.ofList (call.withList ids).body) = .ok (some ids) := by
  rw [withList, String.ofList_toList]
  exact PointRange.expandList?_commaList (PointRange.natAbs_lt_of_expandList? listed)

/-!
## Writing out the ranges of a text
-/

/-- What was written is left alone. -/
theorem expandRanges_withPoints
    {text : List Char}
    {call : CollectionCall}
    (isTrimmed : Text.IsTrimmed text)
    (read : ofText? text = some call)
    (ids : List Int) :
    expandRanges (call.withPoints ids) = .ok (call.withPoints ids) := by
  rw [expandRanges, (isTrimmed_withPoints isTrimmed read ids).trim_eq, ofText?_withPoints read]
  simp [occurs_withList]

/-- All members of a list that names points are well formed. -/
theorem wellFormed_of_expandAll?
    {members : List (List Char)}
    {ids : List Int}
    (listed : PointRange.expandAll? members = .ok (some ids)) :
    ∀ member ∈ members, ∃ named, PointRange.expand? (String.ofList member) = .ok (some named) := by
  induction members generalizing ids with
  | nil =>
      simp
  | cons first others inductionHypothesis =>
      rw [PointRange.expandAll?] at listed
      obtain ⟨named?, firstNames, listed⟩ := bind_eq_ok_iff.mp listed
      cases named? with
      | none =>
          exact absurd (Except.ok.inj listed) (by simp)
      | some named =>
          obtain ⟨rest?, restListed, shape⟩ := bind_eq_ok_iff.mp listed
          obtain ⟨rest, rfl, -⟩ := Option.map_eq_some_iff.mp (Except.ok.inj shape)
          intro member inside
          rcases List.mem_cons.mp inside with rfl | inOthers
          · exact ⟨named, firstNames⟩
          · exact inductionHypothesis restListed member inOthers

/-- Each member of a call with ranges is read. -/
theorem IsRanged.wellFormed
    {text : List Char}
    {call : CollectionCall}
    {ids : List Int}
    (isRanged : IsRanged text call ids) :
    ∀ member ∈ Text.pieces ',' call.body,
      ∃ named, PointRange.expand? (String.ofList member) = .ok (some named) := by
  have listed := isRanged.listed
  rw [PointRange.expandList?, String.toList_ofList, all_isBlank_of_occurs isRanged.ranged,
    if_neg Bool.false_ne_true] at listed
  exact wellFormed_of_expandAll? listed

/-- What was expanded is left alone. -/
theorem expandRanges_of_expanded
    {text expanded : String}
    (succeeds : expandRanges text = .ok expanded) :
    expandRanges expanded = .ok expanded := by
  rcases expandRanges_cases succeeds with rfl | ⟨call, ids, read, rfl⟩
  · exact succeeds
  · exact expandRanges_withPoints (Text.isTrimmed_trim _) read ids

/--
Ranges are written out without a change of meaning.  A text fails to be expanded only where a range
of it is too long.  Otherwise it is left alone, or it is a call with ranges, and what is written is
the call with the same command, the same collection and the same points in a list without ranges.  A
malformed member leaves the text alone, and so does every expansion of what was expanded.
-/
theorem expandRanges_keepsPoints (text : String) :
    FailsIf (expandRanges text) .rangeTooLong (NamesTooMany (Text.trim text.toList)) ∧
      ∀ expanded, expandRanges text = .ok expanded →
        ((expanded = text ∧ ¬ ∃ call ids, IsRanged (Text.trim text.toList) call ids) ∨
          ∃ call ids body,
            IsRanged (Text.trim text.toList) call ids ∧
              expanded = call.withPoints ids ∧
              ofText? expanded.toList = some { call with body } ∧
              PointRange.expandList? (String.ofList body) = .ok (some ids) ∧
              Text.occurs ['.', '.'] body = false) ∧
        (∀ call member,
          ofText? (Text.trim text.toList) = some call →
            member ∈ Text.pieces ',' call.body →
            PointRange.expand? (String.ofList member) = .ok none →
            expanded = text) ∧
        expandRanges expanded = .ok expanded := by
  refine ⟨expandRanges_failsIf text, fun expanded succeeds => ⟨?_, ?_, ?_⟩⟩
  · by_cases ranged : ∃ call ids, IsRanged (Text.trim text.toList) call ids
    · obtain ⟨call, ids, isRanged⟩ := ranged
      obtain rfl := Except.ok.inj (succeeds.symm.trans isRanged.expandRanges_eq)
      exact Or.inr ⟨call, ids, (call.withList ids).body, isRanged, rfl,
        ofText?_withPoints isRanged.read ids, expandList?_withList isRanged.listed,
        occurs_withList call ids⟩
    · exact Or.inl ⟨expandRanges_eq_text succeeds ranged, ranged⟩
  · intro call member read inside malformed
    refine expandRanges_eq_text succeeds ?_
    rintro ⟨other, ids, isRanged⟩
    obtain rfl := Option.some.inj (read.symm.trans isRanged.read)
    obtain ⟨named, wellFormed⟩ := isRanged.wellFormed member inside
    exact absurd (wellFormed.symm.trans malformed) (by simp)
  · exact expandRanges_of_expanded succeeds

/-- A range over the zero is written out, and nothing more is written the second time. -/
theorem expandRanges_keepsPoints_negative :
    expandRanges "addToCollection( hall, [p1..p-1, 7])" =
        .ok "addToCollection(hall, [p-1, p0, p1, p7])" ∧
      expandRanges "addToCollection(hall, [p-1, p0, p1, p7])" =
        .ok "addToCollection(hall, [p-1, p0, p1, p7])" := by
  have expanded :
      expandRanges "addToCollection( hall, [p1..p-1, 7])" =
        .ok "addToCollection(hall, [p-1, p0, p1, p7])" := by
    decide
  exact ⟨expanded, ((expandRanges_keepsPoints _).2 _ expanded).2.2⟩

/-- A well-formed range can be too long to be left alone or to be written out. -/
theorem expandRanges_fails_long :
    expandRanges "AddToCollection(hall, [p1..p99999999999999999999])" =
      .error .rangeTooLong := by
  decide

end SceneEditor.CollectionCall
