import SceneEditor.Proofs.Line.RangeShape

namespace SceneEditor

open CallText

/-!
# Calls that are written with a name and a list

The panels and a user write a call on a collection alike: the command, the name of the collection and
a list of points in brackets.  Such a text is read as the call that was written, unless the name
has a comma and a bracket in it.  Then what stands behind the bracket is read as the list, and
the bracket of the written list makes a member of it malformed.
-/

namespace PointRange

/-!
## What is in no point and no range
-/

/-- The characters that a list is written with around its members. -/
def listMarks : List Char :=
  [',', '[', ']']

/-- A text that means points has no mark of a list in it. -/
theorem Means.notMem
    {text : String}
    {ids : List Int}
    (means : Means (Text.lower (Text.trim text.toList)) ids)
    {mark : Char}
    (isMark : mark ∈ listMarks) :
    mark ∉ text.toList := by
  have ofMark :
      ∀ c ∈ listMarks,
        Text.isBlank c = false ∧ c ≠ 'p' ∧ c ≠ '.' ∧ c ∉ ['-', '+', '_'] ∧
          Text.digitValue? c = none ∧ Text.smallLetter c = c ∧ c ≠ 'İ' :=
    Text.forall_of_all (by decide)
  obtain ⟨visible, notLetter, notDot, notSign, notDigit, small, undotted⟩ := ofMark mark isMark
  have notPart := not_isNumeralPart notSign notDigit
  intro inText
  have isSmall : Text.IsSmall mark := small ▸ Text.isSmall_smallLetter undotted
  have member := Text.mem_lower_of_isSmall isSmall (Text.mem_trim_of_mem visible inText)
  generalize Text.lower (Text.trim text.toList) = body at means member
  cases means with
  | point isPoint =>
      exact isPoint.notMem visible notLetter notPart member
  | range isRange =>
      cases isRange with
      | dotted isFirst areDots isLast =>
          rcases List.mem_append.mp member with inFirst | behind
          · exact isFirst.notMem visible notLetter notPart inFirst
          · rcases List.mem_append.mp behind with inDots | inLast
            · rcases areDots with rfl | rfl
              · exact absurd inDots (by simp [notDot])
              · exact absurd inDots (by simp [notDot])
            · exact isLast.notMem visible notLetter notPart inLast

/-- A text with a mark of lists in it is no range. -/
theorem expand?_of_mark
    {text : String}
    {mark : Char}
    (isMark : mark ∈ listMarks)
    (member : mark ∈ text.toList) :
    expand? text = .ok none :=
  expand?_of_meaningless fun _ means => means.notMem isMark member

/-- A range that is too long has two dots where it was typed. -/
theorem TooLong.isInfix
    {text : String}
    (tooLong : TooLong text) :
    ['.', '.'] <:+: text.toList := by
  have inTrimmed : ['.', '.'] <:+: Text.trim text.toList := by
    refine Text.isInfix_of_lower (Text.forall_of_all (by decide)) ?_
    exact (Text.occurs_iff_isInfix _ _).mp tooLong.1
  obtain ⟨lead, tail, -, -, shape⟩ := Text.exists_append_trim text.toList
  rw [shape]
  exact inTrimmed.trans ⟨lead, tail, by rw [List.append_assoc]⟩

/-- Behind a malformed member of a list no range is too long. -/
theorem meetsTooLong_append_iff
    {members after : List (List Char)}
    {member : List Char}
    (malformed : expand? (String.ofList member) = .ok none) :
    MeetsTooLong (members ++ member :: after) ↔ MeetsTooLong members := by
  induction members with
  | nil =>
      refine iff_of_false ?_ meetsTooLong_nil
      rw [List.nil_append, meetsTooLong_cons_iff, malformed]
      rintro (tooLong | ⟨⟨ids, read⟩, -⟩)
      · have fails := (expand?_failsIf _).fails tooLong
        rw [malformed] at fails
        exact absurd fails (by simp)
      · exact absurd read (by simp)
  | cons first others inductionHypothesis =>
      rw [List.cons_append, meetsTooLong_cons_iff, meetsTooLong_cons_iff, inductionHypothesis]

/-- A list with too long a range in it holds two dots. -/
theorem occurs_of_meetsTooLong
    {list : List Char}
    (meets : MeetsTooLong (Text.pieces ',' list)) :
    Text.occurs ['.', '.'] list = true := by
  obtain ⟨before, member, after, shape, -, tooLong⟩ := meets
  have isPiece : member ∈ Text.pieces ',' list := by
    rw [shape]
    exact List.mem_append_right _ List.mem_cons_self
  have inMember := tooLong.isInfix
  rw [String.toList_ofList] at inMember
  exact (Text.occurs_iff_isInfix _ _).mpr (inMember.trans (Text.isInfix_of_mem_pieces isPiece))

/-- The first member of a list with a bracket in front is malformed. -/
theorem exists_malformed (list : List Char) :
    ∃ member others,
      Text.pieces ',' (' ' :: '[' :: list) = member :: others ∧
        expand? (String.ofList member) = .ok none := by
  obtain ⟨first, others, shape⟩ := List.exists_cons_of_ne_nil (Text.pieces_ne_nil ',' list)
  refine ⟨' ' :: '[' :: first, others, ?_, ?_⟩
  · exact Text.pieces_cons_of_ne (by decide) (Text.pieces_cons_of_ne (by decide) shape)
  · refine expand?_of_mark (by decide : '[' ∈ listMarks) ?_
    rw [String.toList_ofList]
    exact List.mem_cons_of_mem _ List.mem_cons_self

end PointRange

namespace CollectionCall

/-- A call as it is written, with a space in front of the list. -/
def written (command name list : List Char) : List Char :=
  command ++ '(' :: (name ++ ',' :: ' ' :: '[' :: (list ++ [']', ')']))

/-- The name of a collection begins a list itself, behind a comma and a bracket. -/
inductive OpensList : List Char → List Char → Prop where
  | opens {text collection lead list : List Char}
      (named : IsNameIn text collection)
      (nameWhole : ',' ∉ text)
      (noBracket : '[' ∉ collection ∧ ']' ∉ collection)
      (isLead : IsGap lead)
      (listWhole : ']' ∉ list) : OpensList (text ++ ',' :: (lead ++ '[' :: list)) list

section

variable {known command name list : List Char}

/-- A call that is written out is read as what it was written from. -/
theorem reads_written
    (isCommand : known ∈ commands)
    (spelled : Spells known command)
    (named : IsNameIn name name)
    (whole : ∀ mark ∈ PointRange.listMarks, mark ∉ name)
    (listWhole : ']' ∉ list) :
    Reads (written command name list) { command, collection := name, body := list } := by
  have noBracket : '[' ∉ name ∧ ']' ∉ name := ⟨whole '[' (by decide), whole ']' (by decide)⟩
  have blank : IsGap [' '] := by
    rw [IsGap]
    decide
  have nothing : IsGap [] := rfl
  exact .call isCommand spelled nothing named (whole ',' (by decide)) noBracket blank listWhole
    nothing

/-- A call with a name that begins a list is read with that list, which ends in the written one. -/
theorem OpensList.exists_reads
    {more : List Char}
    (opensList : OpensList name more)
    (isCommand : known ∈ commands)
    (spelled : Spells known command)
    (listWhole : ']' ∉ list) :
    ∃ call, Reads (written command name list) call ∧
      call.body = more ++ ',' :: ' ' :: '[' :: list := by
  cases opensList with
  | opens named nameWhole noBracket isLead moreWhole =>
      have bodyWhole : ']' ∉ more ++ ',' :: ' ' :: '[' :: list := by
        simp [moreWhole, listWhole]
      have nothing : IsGap [] := rfl
      have reads := Reads.call isCommand spelled nothing named nameWhole noBracket isLead bodyWhole
        nothing
      rw [written]
      simp only [List.nil_append, List.append_assoc, List.cons_append] at reads ⊢
      exact ⟨_, reads, rfl⟩

/-- Where a text ends in a bracket and a parenthesis, no blanks stand between the two. -/
theorem eq_of_closed
    {front back tail : List Char}
    (isTail : IsGap tail)
    (same : front ++ [']', ')'] = back ++ ']' :: (tail ++ [')'])) :
    front = back := by
  have ends : (front ++ [']']) ++ [')'] = (back ++ ']' :: tail) ++ [')'] := by
    simpa using same
  have inner := List.append_inj_left' ends rfl
  rcases List.eq_nil_or_concat' tail with rfl | ⟨blanks, last, rfl⟩
  · exact List.append_inj_left' inner rfl
  · have ends : front ++ [']'] = (back ++ ']' :: blanks) ++ [last] := by
      rw [inner, List.append_assoc, List.cons_append]
    obtain ⟨rfl, -⟩ := List.cons.inj (List.append_inj_right' ends rfl)
    have blank := List.all_eq_true.mp isTail ']' (List.mem_append_right _ List.mem_cons_self)
    exact absurd blank (by decide)

/-- A text is cut at the first mark, which is the end of a front or inside of it. -/
theorem eq_or_exists_of_cut
    {mark : Char}
    {front other rest otherRest : List Char}
    (whole : mark ∉ front)
    (same : other ++ mark :: otherRest = front ++ mark :: rest) :
    other = front ∧ rest = otherRest ∨
      ∃ inner, other = front ++ mark :: inner ∧ rest = inner ++ mark :: otherRest := by
  rcases List.append_eq_append_iff.mp same with
    ⟨between, rfl, shape⟩ | ⟨between, rfl, shape⟩
  · cases between with
    | nil =>
        exact .inl ⟨(List.append_nil other).symm, (List.cons.inj shape).2.symm⟩
    | cons first inner =>
        obtain ⟨rfl, -⟩ := List.cons.inj shape
        exact absurd (List.mem_append_right other List.mem_cons_self) whole
  · cases between with
    | nil =>
        exact .inl ⟨List.append_nil front, (List.cons.inj shape).2⟩
    | cons first inner =>
        obtain ⟨rfl, rest⟩ := List.cons.inj shape
        exact .inr ⟨inner, rfl, rest⟩

/-- What a call that begins with its command is made of behind the parenthesis. -/
theorem exists_of_reads
    (isCommand : known ∈ commands)
    (spelled : Spells known command)
    {inner : List Char}
    {call : CollectionCall}
    (reads : Reads (command ++ '(' :: inner) call) :
    ∃ text lead tail,
      inner = text ++ ',' :: (lead ++ '[' :: (call.body ++ ']' :: (tail ++ [')']))) ∧
        (∀ list, ']' ∉ list → OpensList (text ++ ',' :: (lead ++ '[' :: list)) list) ∧
        ',' ∉ text ∧ IsGap lead ∧ ']' ∉ call.body ∧ IsGap tail := by
  generalize shape : command ++ '(' :: inner = whole at reads
  cases reads with
  | @call other otherCommand gap text collection lead body tail isOther otherSpelled isGap named
      nameWhole noBracket isLead bodyWhole isTail =>
      refine ⟨text, lead, tail, ?_, fun list => .opens named nameWhole noBracket isLead, nameWhole,
        isLead, bodyWhole, isTail⟩
      have taken := spelled.takeName?_eq ('(' :: inner)
      rw [shape] at taken
      have otherTaken := otherSpelled.takeName?_eq
        (gap ++ '(' :: (text ++ ',' :: (lead ++ '[' :: (body ++ ']' :: (tail ++ [')'])))))
      by_cases same : known = other
      · rw [same] at taken
        have arguments := (Prod.mk.inj (Option.some.inj (taken.symm.trans otherTaken))).2
        cases gap with
        | nil =>
            exact (List.cons.inj arguments).2
        | cons c gap =>
            obtain ⟨rfl, -⟩ := List.cons.inj arguments
            have blank := List.all_eq_true.mp isGap '(' List.mem_cons_self
            exact absurd blank (by decide)
      · have missed := (differ_of_mem_commands isCommand isOther same).takeName?_eq_none taken
        exact absurd (missed.symm.trans otherTaken) (by simp)

/-- A written call is read with the written list, or with the one that its name begins. -/
theorem body_of_reads_written
    (isCommand : known ∈ commands)
    (spelled : Spells known command)
    {call : CollectionCall}
    (reads : Reads (written command name list) call) :
    call.body = list ∨
      ∃ more, OpensList name more ∧ call.body = more ++ ',' :: ' ' :: '[' :: list := by
  obtain ⟨text, lead, tail, inner, opens, nameWhole, isLead, bodyWhole, isTail⟩ :=
    exists_of_reads isCommand spelled reads
  have closed :
      (name ++ ',' :: ' ' :: '[' :: list) ++ [']', ')'] =
        (text ++ ',' :: (lead ++ '[' :: call.body)) ++ ']' :: (tail ++ [')']) := by
    simpa using inner
  rcases eq_or_exists_of_cut nameWhole (eq_of_closed isTail closed) with ⟨-, lists⟩ | ⟨behind, rfl, lists⟩
  · left
    have opened : afterMark? '[' (lead ++ '[' :: call.body) = some call.body :=
      isLead.afterMark?_eq (by decide) call.body
    rw [lists, afterMark?_cons_of_blank (by decide), afterMark?_cons (by decide)] at opened
    exact (Option.some.inj opened).symm
  · right
    rcases List.append_eq_append_iff.mp lists with ⟨between, rfl, rest⟩ | ⟨between, rfl, rest⟩
    · cases between with
      | nil =>
          exact absurd (List.cons.inj rest).1 (by decide)
      | cons bracket more =>
          obtain ⟨rfl, body⟩ := List.cons.inj rest
          refine ⟨more, opens more fun inside => bodyWhole ?_, body⟩
          rw [body]
          exact List.mem_append_left _ inside
    · -- the comma of the written call would stand among the blanks in front of the bracket
      cases between with
      | nil =>
          exact absurd (List.cons.inj rest).1 (by decide)
      | cons comma blanks =>
          obtain ⟨rfl, -⟩ := List.cons.inj rest
          have blank := List.all_eq_true.mp isLead ',' (by simp)
          exact absurd blank (by decide)

/-- The name begins a list with a range of more points than a list may have. -/
def OpensTooMany (name : List Char) : Prop :=
  ∃ more, OpensList name more ∧ PointRange.MeetsTooLong (Text.pieces ',' more)

/-- A name without a comma opens no range. -/
theorem not_opensTooMany (noComma : ',' ∉ name) :
    ¬ OpensTooMany name := by
  rintro ⟨more, opensList, -⟩
  cases opensList with
  | opens =>
      exact noComma (List.mem_append_right _ List.mem_cons_self)

/-- A written call without ranges names too many points exactly if its name begins a list of them. -/
theorem namesTooMany_written_iff
    (isCommand : known ∈ commands)
    (spelled : Spells known command)
    (noDot : '.' ∉ list)
    (listWhole : ']' ∉ list) :
    NamesTooMany (written command name list) ↔ OpensTooMany name := by
  obtain ⟨member, others, pieces, malformed⟩ := PointRange.exists_malformed list
  constructor
  · rintro ⟨call, read, ranged, meets⟩
    rcases body_of_reads_written isCommand spelled (ofText?_eq_some_iff.mp read) with
      same | ⟨more, opensList, body⟩
    · rw [same, Text.occurs_of_notMem noDot] at ranged
      exact absurd ranged Bool.false_ne_true
    · rw [body, Text.pieces_append, pieces] at meets
      exact ⟨more, opensList, (PointRange.meetsTooLong_append_iff malformed).mp meets⟩
  · rintro ⟨more, opensList, meets⟩
    obtain ⟨call, reads, body⟩ := opensList.exists_reads isCommand spelled listWhole
    have meets : PointRange.MeetsTooLong (Text.pieces ',' call.body) := by
      rw [body, Text.pieces_append, pieces]
      exact (PointRange.meetsTooLong_append_iff malformed).mpr meets
    exact ⟨call, ofText?_eq_some_iff.mpr reads, PointRange.occurs_of_meetsTooLong meets, meets⟩

/-- A written call without ranges has none to write out, whatever its name. -/
theorem not_isRanged_written
    (isCommand : known ∈ commands)
    (spelled : Spells known command)
    (noDot : '.' ∉ list)
    (call : CollectionCall)
    (ids : List Int) :
    ¬ IsRanged (written command name list) call ids := by
  intro isRanged
  obtain ⟨member, others, pieces, malformed⟩ := PointRange.exists_malformed list
  rcases body_of_reads_written isCommand spelled (ofText?_eq_some_iff.mp isRanged.read) with
    same | ⟨more, -, body⟩
  · have ranged := isRanged.ranged
    rw [same, Text.occurs_of_notMem noDot] at ranged
    exact absurd ranged Bool.false_ne_true
  · have inBody : member ∈ Text.pieces ',' call.body := by
      rw [body, Text.pieces_append, pieces]
      exact List.mem_append_right _ List.mem_cons_self
    obtain ⟨named, wellFormed⟩ := isRanged.wellFormed member inBody
    exact absurd (wellFormed.symm.trans malformed) (by simp)

end

end CollectionCall

end SceneEditor
