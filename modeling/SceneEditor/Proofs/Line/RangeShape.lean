import Mathlib.Data.List.Sort
import SceneEditor.Proofs.Line.CallShape
import SceneEditor.Proofs.Number.Integer
import SceneEditor.Proofs.Text.SmallLetters

namespace SceneEditor.PointRange

open CallText Attempt

/-!
# The shapes of ranges

What a point and a range look like in small letters, and which points they mean.  A text is expanded
exactly if it is one of them, and then to all the points that it means, unless they are more
than a list may have.  Longer runs of dots and dots at other places are in neither of them.
-/

/-- The text names the point by its number, with one `p` in front or none and blanks around both. -/
inductive IsPoint : List Char → Int → Prop where
  | bare {lead numeral tail : List Char} {id : Int}
      (isLead : IsGap lead)
      (isInteger : Numeral.IsInteger numeral id)
      (isTail : IsGap tail) : IsPoint (lead ++ (numeral ++ tail)) id
  | marked {lead gap numeral tail : List Char} {id : Int}
      (isLead : IsGap lead)
      (isGap : IsGap gap)
      (isInteger : Numeral.IsInteger numeral id)
      (isTail : IsGap tail) : IsPoint (lead ++ ('p' :: (gap ++ numeral) ++ tail)) id

/-- The text is two points with two or three dots between them, and no other dot. -/
inductive IsRange : List Char → Int → Int → Prop where
  | dotted {first dots last : List Char} {start stop : Int}
      (isFirst : IsPoint first start)
      (areDots : dots = ['.', '.'] ∨ dots = ['.', '.', '.'])
      (isLast : IsPoint last stop)
      (firstWhole : '.' ∉ first)
      (lastWhole : '.' ∉ last) : IsRange (first ++ (dots ++ last)) start stop

/-- The numbers from the smaller of two ends to the greater, upwards and each once. -/
structure CountsUp (start stop : Int) (ids : List Int) : Prop where
  increasing : ids.Pairwise (· < ·)
  mem_iff : ∀ id, id ∈ ids ↔ min start stop ≤ id ∧ id ≤ max start stop

/-- The points that a text in small letters means. -/
inductive Means : List Char → List Int → Prop where
  | point {text : List Char} {id : Int} (isPoint : IsPoint text id) : Means text [id]
  | range {text : List Char} {start stop : Int} {ids : List Int}
      (isRange : IsRange text start stop)
      (countsUp : CountsUp start stop ids) : Means text ids

/-!
## Points
-/

/-- The character is a blank, the mark of a point or a part of its number. -/
def IsPointPart (c : Char) : Prop :=
  Text.isBlank c = true ∨ c = 'p' ∨ Numeral.IsNumeralPart c

/-- A point is written in the characters for points. -/
theorem IsPoint.isPointPart
    {text : List Char}
    {id : Int}
    (isPoint : IsPoint text id) :
    ∀ c ∈ text, IsPointPart c := by
  have ofGap {gap : List Char} (isGap : IsGap gap) : ∀ c ∈ gap, IsPointPart c :=
    fun c member => .inl (List.all_eq_true.mp isGap c member)
  have ofInteger {numeral : List Char} (isInteger : Numeral.IsInteger numeral id) :
      ∀ c ∈ numeral, IsPointPart c :=
    fun c member => .inr (.inr (isInteger.isNumeralPart c member))
  cases isPoint with
  | bare isLead isInteger isTail =>
      exact List.forall_mem_append.mpr ⟨ofGap isLead,
        List.forall_mem_append.mpr ⟨ofInteger isInteger, ofGap isTail⟩⟩
  | marked isLead isGap isInteger isTail =>
      refine List.forall_mem_append.mpr ⟨ofGap isLead,
        List.forall_mem_append.mpr ⟨List.forall_mem_cons.mpr ⟨.inr (.inl rfl), ?_⟩, ofGap isTail⟩⟩
      exact List.forall_mem_append.mpr ⟨ofGap isGap, ofInteger isInteger⟩

/-- What is no part of a point is not in one. -/
theorem IsPoint.notMem
    {text : List Char}
    {id : Int}
    (isPoint : IsPoint text id)
    {c : Char}
    (visible : Text.isBlank c = false)
    (notMark : c ≠ 'p')
    (notPart : ¬ Numeral.IsNumeralPart c) :
    c ∉ text := by
  intro member
  rcases isPoint.isPointPart c member with blank | isMark | isPart
  · exact absurd (visible.symm.trans blank) Bool.false_ne_true
  · exact notMark isMark
  · exact notPart isPart

theorem not_isNumeralPart
    {c : Char}
    (notSign : c ∉ ['-', '+', '_'])
    (notDigit : Text.digitValue? c = none) :
    ¬ Numeral.IsNumeralPart c := by
  rintro (rfl | rfl | rfl | ⟨digit, isDigit⟩)
  · exact notSign (by decide)
  · exact notSign (by decide)
  · exact notSign (by decide)
  · exact absurd (notDigit.symm.trans isDigit) (by simp)

theorem IsPoint.noDot
    {text : List Char}
    {id : Int}
    (isPoint : IsPoint text id) :
    '.' ∉ text :=
  isPoint.notMem (by decide) (by decide) (not_isNumeralPart (by decide) (by decide))

/-- A trimmed text is read as an integer exactly if it writes that integer. -/
theorem integer?_toOption_eq_some_iff
    {text : List Char}
    (isTrimmed : Text.IsTrimmed text)
    {id : Int} :
    (Numeral.integer? (String.ofList text)).toOption = some id ↔ Numeral.IsInteger text id := by
  have read := @Numeral.integer?_eq_ok_iff (String.ofList text) id
  rw [String.toList_ofList, Numeral.trimWhile_isOuterBlank isTrimmed] at read
  rw [← read]
  constructor
  · exact eq_ok_of_toOption
  · intro isOk
    rw [isOk]
    rfl

/-- In small letters a text is read as a point exactly if it names it. -/
theorem pointId?_eq_some_iff
    {token : List Char}
    (areSmall : ∀ c ∈ token, Text.IsSmall c)
    {id : Int} :
    pointId? token = some id ↔ IsPoint token id := by
  have small : Text.lower (Text.trim token) = Text.trim token :=
    Text.lower_of_isSmall fun c member => areSmall c (Text.mem_of_mem_trim member)
  rw [pointId?, small]
  constructor
  · intro read
    obtain ⟨lead, tail, isLead, isTail, shape⟩ := Text.exists_append_trim token
    rw [shape]
    split at read
    · next rest marked =>
      obtain ⟨gap, rear, isGap, isRear, restShape⟩ := Text.exists_append_trim rest
      have isInteger := (integer?_toOption_eq_some_iff (Text.isTrimmed_trim rest)).mp read
      have isTail : IsGap (rear ++ tail) := by
        rw [IsGap, List.all_append, isRear, isTail]
        rfl
      have whole :
          lead ++ (Text.trim token ++ tail) =
            lead ++ ('p' :: (gap ++ Text.trim rest) ++ (rear ++ tail)) := by
        rw [marked]
        conv_lhs => rw [restShape]
        simp only [List.cons_append, List.append_assoc]
      rw [whole]
      exact .marked isLead isGap isInteger isTail
    · next unmarked =>
      exact .bare isLead ((integer?_toOption_eq_some_iff (Text.isTrimmed_trim token)).mp read) isTail
  · intro isPoint
    cases isPoint with
    | @bare lead numeral tail _ isLead isInteger isTail =>
        rw [Text.trim_append isLead isTail, isInteger.isTrimmed.trim_eq]
        split
        · next rest =>
          have isPart := isInteger.isNumeralPart 'p' List.mem_cons_self
          exact absurd isPart (not_isNumeralPart (by decide) (by decide))
        · exact (integer?_toOption_eq_some_iff isInteger.isTrimmed).mpr isInteger
    | @marked lead gap numeral tail _ isLead isGap isInteger isTail =>
        have isTrimmed : Text.IsTrimmed ('p' :: (gap ++ numeral)) := by
          constructor
          · intro c first
            rw [← Option.some.inj first]
            decide
          · intro c last
            have lastOfNumeral : numeral.getLast? = some c := by
              rw [← List.cons_append, List.getLast?_append_of_ne_nil _ isInteger.ne_nil] at last
              exact last
            exact isInteger.isTrimmed.back c lastOfNumeral
        have behind : Text.trim (gap ++ numeral) = numeral := by
          have trimmed : Text.trim (gap ++ (numeral ++ [])) = Text.trim numeral :=
            Text.trim_append isGap rfl numeral
          rw [List.append_nil, isInteger.isTrimmed.trim_eq] at trimmed
          exact trimmed
        rw [Text.trim_append isLead isTail, isTrimmed.trim_eq]
        simp only [behind]
        exact (integer?_toOption_eq_some_iff isInteger.isTrimmed).mpr isInteger

/-!
## Runs of dots
-/

theorem dottedParts_ne_nil (text : List Char) :
    dottedParts text ≠ [] := by
  rw [dottedParts.eq_def]
  split
  · exact List.cons_ne_nil _ _
  · exact List.cons_ne_nil _ _
  · exact List.cons_ne_nil _ _
  · split
    · exact List.cons_ne_nil _ _
    · exact List.cons_ne_nil _ _

theorem dottedParts_cons
    {c : Char}
    (notDot : c ≠ '.')
    {rest first : List Char}
    {others : List (List Char)}
    (parts : dottedParts rest = first :: others) :
    dottedParts (c :: rest) = (c :: first) :: others := by
  rw [dottedParts, parts]
  · exact fun _ isDot _ => notDot isDot
  · exact fun _ isDot _ => notDot isDot

/-- A stretch without dots is put in front of the first part. -/
theorem dottedParts_append
    {front : List Char}
    (whole : '.' ∉ front)
    {rest first : List Char}
    {others : List (List Char)}
    (parts : dottedParts rest = first :: others) :
    dottedParts (front ++ rest) = (front ++ first) :: others := by
  induction front with
  | nil =>
      exact parts
  | cons c front inductionHypothesis =>
      obtain ⟨notDot, whole⟩ := List.ne_and_not_mem_of_not_mem_cons whole
      exact dottedParts_cons notDot.symm (inductionHypothesis whole)

/-- A text without a dot is one part. -/
theorem dottedParts_of_notMem
    {text : List Char}
    (whole : '.' ∉ text) :
    dottedParts text = [text] := by
  have parts : dottedParts (text ++ []) = [text ++ []] := dottedParts_append whole rfl
  rwa [List.append_nil] at parts

/-- Two stretches without dots are the parts of a text with a run of dots between them. -/
theorem dottedParts_dotted
    {first dots last : List Char}
    (areDots : dots = ['.', '.'] ∨ dots = ['.', '.', '.'])
    (firstWhole : '.' ∉ first)
    (lastWhole : '.' ∉ last) :
    dottedParts (first ++ (dots ++ last)) = [first, last] := by
  have behind : dottedParts (dots ++ last) = [[], last] := by
    rcases areDots with rfl | rfl
    · rw [List.cons_append, List.cons_append, List.nil_append, dottedParts,
        dottedParts_of_notMem lastWhole]
      rintro rest rfl
      exact lastWhole List.mem_cons_self
    · rw [List.cons_append, List.cons_append, List.cons_append, List.nil_append, dottedParts,
        dottedParts_of_notMem lastWhole]
  rw [dottedParts_append firstWhole behind, List.append_nil]

/-- One part is the whole text. -/
theorem eq_of_dottedParts
    {text part : List Char}
    (parts : dottedParts text = [part]) :
    text = part := by
  induction text using dottedParts.induct generalizing part with
  | case1 =>
      exact (List.cons.inj parts).1
  | case2 rest _ =>
      rw [dottedParts] at parts
      exact absurd (List.cons.inj parts).2 (dottedParts_ne_nil rest)
  | case3 rest notThree _ =>
      rw [dottedParts] at parts
      · exact absurd (List.cons.inj parts).2 (dottedParts_ne_nil rest)
      · exact notThree
  | case4 c rest _ _ none _ =>
      exact absurd none (dottedParts_ne_nil rest)
  | case5 c rest notThree notTwo first others restParts inductionHypothesis =>
      rw [dottedParts, restParts] at parts
      · obtain ⟨rfl, rfl⟩ := List.cons.inj parts
        rw [inductionHypothesis restParts]
      · exact notThree
      · exact notTwo

/-- A text with two parts is the one, a run of dots and the other. -/
theorem eq_append_of_dottedParts
    {text first last : List Char}
    (parts : dottedParts text = [first, last]) :
    ∃ dots, (dots = ['.', '.'] ∨ dots = ['.', '.', '.']) ∧ text = first ++ (dots ++ last) := by
  induction text using dottedParts.induct generalizing first with
  | case1 =>
      exact absurd (List.cons.inj parts).2.symm (List.cons_ne_nil _ _)
  | case2 rest _ =>
      rw [dottedParts] at parts
      obtain ⟨rfl, restParts⟩ := List.cons.inj parts
      exact ⟨_, .inr rfl, by rw [eq_of_dottedParts restParts]; rfl⟩
  | case3 rest notThree _ =>
      rw [dottedParts] at parts
      · obtain ⟨rfl, restParts⟩ := List.cons.inj parts
        exact ⟨_, .inl rfl, by rw [eq_of_dottedParts restParts]; rfl⟩
      · exact notThree
  | case4 c rest _ _ none _ =>
      exact absurd none (dottedParts_ne_nil rest)
  | case5 c rest notThree notTwo before others restParts inductionHypothesis =>
      rw [dottedParts, restParts] at parts
      · obtain ⟨rfl, rfl⟩ := List.cons.inj parts
        obtain ⟨dots, areDots, shape⟩ := inductionHypothesis restParts
        exact ⟨dots, areDots, by rw [shape]; rfl⟩
      · exact notThree
      · exact notTwo

/-- In small letters a text has two ends exactly if it is the range between them. -/
theorem ends?_eq_some_iff
    {body : List Char}
    (areSmall : ∀ c ∈ body, Text.IsSmall c)
    {start stop : Int} :
    ends? body = some (start, stop) ↔ IsRange body start stop := by
  constructor
  · intro read
    unfold ends? at read
    split at read
    · next first last parts =>
      obtain ⟨dots, areDots, rfl⟩ := eq_append_of_dottedParts parts
      obtain ⟨_, firstRead, read⟩ := Option.bind_eq_some_iff.mp read
      obtain ⟨_, lastRead, same⟩ := Option.bind_eq_some_iff.mp read
      obtain ⟨rfl, rfl⟩ := Prod.mk.inj (Option.some.inj same)
      have isFirst := (pointId?_eq_some_iff fun c member =>
        areSmall c (List.mem_append_left _ member)).mp firstRead
      have isLast := (pointId?_eq_some_iff fun c member =>
        areSmall c (List.mem_append_right _ (List.mem_append_right _ member))).mp lastRead
      exact .dotted isFirst areDots isLast isFirst.noDot isLast.noDot
    · exact absurd read (by simp)
  · intro isRange
    cases isRange with
    | dotted isFirst areDots isLast firstWhole lastWhole =>
        have firstRead := (pointId?_eq_some_iff fun c member =>
          areSmall c (List.mem_append_left _ member)).mpr isFirst
        have lastRead := (pointId?_eq_some_iff fun c member =>
          areSmall c (List.mem_append_right _ (List.mem_append_right _ member))).mpr isLast
        simp only [ends?, dottedParts_dotted areDots firstWhole lastWhole, firstRead, lastRead]
        rfl

/-- Two dots stand in a range. -/
theorem IsRange.occurs
    {body : List Char}
    {start stop : Int}
    (isRange : IsRange body start stop) :
    Text.occurs ['.', '.'] body = true := by
  rw [Text.occurs_iff_isInfix]
  cases isRange with
  | @dotted first dots last _ _ _ areDots =>
      rcases areDots with rfl | rfl
      · exact ⟨first, last, by simp⟩
      · exact ⟨first, '.' :: last, by simp⟩

/-- Two dots do not stand in a point. -/
theorem IsPoint.not_occurs
    {body : List Char}
    {id : Int}
    (isPoint : IsPoint body id) :
    Text.occurs ['.', '.'] body = false :=
  Text.occurs_of_notMem isPoint.noDot

/-!
## Counting upwards
-/

/-- There is one list that counts up between two bounds. -/
theorem CountsUp.unique
    {start stop : Int}
    {ids others : List Int}
    (countsUp : CountsUp start stop ids)
    (alsoCountsUp : CountsUp start stop others) :
    ids = others :=
  countsUp.increasing.eq_of_mem_iff alsoCountsUp.increasing fun id =>
    (countsUp.mem_iff id).trans (alsoCountsUp.mem_iff id).symm

/-- Counting up does not depend on which bound is named first. -/
theorem CountsUp.swap
    {start stop : Int}
    {ids : List Int}
    (countsUp : CountsUp start stop ids) :
    CountsUp stop start ids where
  increasing := countsUp.increasing
  mem_iff := fun id => by rw [countsUp.mem_iff, min_comm, max_comm]

/-- All numbers between two ends, as many as there may be. -/
def between (start stop : Int) : List Int :=
  (List.range (max start stop - min start stop + 1).toNat).map fun offset : Nat =>
    min start stop + offset

/-- The list between two bounds counts up from the lower one. -/
theorem countsUp_between (start stop : Int) :
    CountsUp start stop (between start stop) where
  increasing := by
    refine List.Pairwise.map _ ?_ List.pairwise_lt_range
    intro offset other below
    omega
  mem_iff := by
    intro id
    rw [between, List.mem_map]
    constructor
    · rintro ⟨offset, inRange, rfl⟩
      have bounded := List.mem_range.mp inRange
      omega
    · rintro ⟨fromFirst, toLast⟩
      exact ⟨(id - min start stop).toNat, List.mem_range.mpr (by omega), by omega⟩

/-- The list between two bounds is given if it is not too long. -/
theorem idsBetween_eq (start stop : Int) :
    idsBetween start stop =
      if memberLimit < (between start stop).length then .error .rangeTooLong
      else .ok (between start stop) := by
  rw [idsBetween, between, List.length_map, List.length_range]

/-!
## Expansion
-/

theorem IsPoint.ne_nil
    {text : List Char}
    {id : Int}
    (isPoint : IsPoint text id) :
    text ≠ [] := by
  rintro rfl
  have read := (pointId?_eq_some_iff (fun _ never => absurd never List.not_mem_nil)).mpr isPoint
  have nothing : pointId? [] = none := by decide
  exact absurd (nothing.symm.trans read) (by simp)

/-- A text that means something is expanded to it, unless that is too much. -/
theorem expand?_of_means
    {text : String}
    {ids : List Int}
    (means : Means (Text.lower (Text.trim text.toList)) ids) :
    expand? text =
      if memberLimit < ids.length then .error .rangeTooLong else .ok (some ids) := by
  have areSmall : ∀ c ∈ Text.lower (Text.trim text.toList), Text.IsSmall c :=
    fun _ member => Text.isSmall_of_mem_lower member
  rw [expand?]
  generalize Text.lower (Text.trim text.toList) = body at means areSmall
  cases means with
  | @point id isPoint =>
      have single : ¬ memberLimit < [id].length := Nat.not_lt.mpr (by decide : 1 ≤ memberLimit)
      have filled : body.isEmpty = false := List.isEmpty_eq_false_iff.mpr isPoint.ne_nil
      rw [if_neg single]
      simp [filled, isPoint.not_occurs, (pointId?_eq_some_iff areSmall).mpr isPoint]
  | range isRange countsUp =>
      have filled : body.isEmpty = false := by
        rw [List.isEmpty_eq_false_iff]
        rintro rfl
        exact absurd isRange.occurs (by decide)
      obtain rfl := countsUp.unique (countsUp_between _ _)
      simp only [filled, isRange.occurs, (ends?_eq_some_iff areSmall).mpr isRange, idsBetween_eq,
        Bool.false_eq_true, if_false, if_true]
      split
      · rfl
      · rfl

/-- A text without a meaning is read as nothing. -/
theorem expand?_of_meaningless
    {text : String}
    (never : ∀ ids, ¬ Means (Text.lower (Text.trim text.toList)) ids) :
    expand? text = .ok none := by
  have areSmall : ∀ c ∈ Text.lower (Text.trim text.toList), Text.IsSmall c :=
    fun _ member => Text.isSmall_of_mem_lower member
  rw [expand?]
  generalize Text.lower (Text.trim text.toList) = body at never areSmall
  have noPoint : pointId? body = none := by
    rw [Option.eq_none_iff_forall_ne_some]
    intro id read
    exact never _ (.point ((pointId?_eq_some_iff areSmall).mp read))
  have noEnds : ends? body = none := by
    rw [Option.eq_none_iff_forall_ne_some]
    rintro ⟨start, stop⟩ read
    exact never _ (.range ((ends?_eq_some_iff areSmall).mp read) (countsUp_between start stop))
  simp [noPoint, noEnds]

/-- A text in small letters is expanded to what it means, and fails if that is too much. -/
theorem expand?_eq_some_iff
    {text : String}
    {ids : List Int} :
    expand? text = .ok (some ids) ↔
      Means (Text.lower (Text.trim text.toList)) ids ∧ ids.length ≤ memberLimit := by
  constructor
  · intro expanded
    by_cases meant : ∃ others, Means (Text.lower (Text.trim text.toList)) others
    · obtain ⟨others, means⟩ := meant
      rw [expand?_of_means means] at expanded
      split at expanded
      · exact absurd expanded (by simp)
      · next fits =>
        obtain rfl := Option.some.inj (Except.ok.inj expanded)
        exact ⟨means, Nat.not_lt.mp fits⟩
    · rw [expand?_of_meaningless (not_exists.mp meant)] at expanded
      exact absurd expanded (by simp)
  · rintro ⟨means, fits⟩
    rw [expand?_of_means means, if_neg (Nat.not_lt.mpr fits)]

/-- Only a text without a meaning is read as nothing. -/
theorem expand?_eq_none_iff {text : String} :
    expand? text = .ok none ↔ ∀ ids, ¬ Means (Text.lower (Text.trim text.toList)) ids := by
  constructor
  · intro expanded ids means
    rw [expand?_of_means means] at expanded
    split at expanded
    · exact absurd expanded (by simp)
    · exact absurd expanded (by simp)
  · exact expand?_of_meaningless

/-- A text is too long a range exactly if it means more points than a list may have. -/
theorem tooLong_iff {text : String} :
    TooLong text ↔
      ∃ ids, Means (Text.lower (Text.trim text.toList)) ids ∧ memberLimit < ids.length := by
  constructor
  · rintro ⟨-, start, stop, ends, tooMany⟩
    have isRange := (ends?_eq_some_iff fun _ member => Text.isSmall_of_mem_lower member).mp ends
    refine ⟨between start stop, .range isRange (countsUp_between start stop), ?_⟩
    rw [between, List.length_map, List.length_range]
    generalize memberLimit = limit at tooMany ⊢
    omega
  · rintro ⟨ids, means, tooMany⟩
    have fails := expand?_of_means means
    rw [if_pos tooMany] at fails
    exact ((expand?_failsIf text _).mp fails).2

/--
A text without blanks around it and in small letters is expanded to the points that it means: to the
one that it names, or to all that a range counts upwards.  Every other text is malformed.  Only a range
of more points than a list may have is neither.  The ends of a range may be swapped.
-/
theorem expand?_reads (text : String) :
    (∀ ids,
      expand? text = .ok (some ids) ↔
        Means (Text.lower (Text.trim text.toList)) ids ∧ ids.length ≤ memberLimit) ∧
      (expand? text = .ok none ↔ ∀ ids, ¬ Means (Text.lower (Text.trim text.toList)) ids) ∧
      FailsIf (expand? text) .rangeTooLong
        (∃ ids, Means (Text.lower (Text.trim text.toList)) ids ∧ memberLimit < ids.length) ∧
      ∀ swapped start stop,
        IsRange (Text.lower (Text.trim text.toList)) start stop →
          IsRange (Text.lower (Text.trim swapped.toList)) stop start →
            expand? swapped = expand? text := by
  refine ⟨fun ids => expand?_eq_some_iff, expand?_eq_none_iff,
    (expand?_failsIf text).of_iff tooLong_iff, ?_⟩
  intro swapped start stop isRange isSwapped
  have countsUp := countsUp_between start stop
  rw [expand?_of_means (.range isRange countsUp),
    expand?_of_means (.range isSwapped countsUp.swap)]

example : expand? " P6 ...\t+3_" = .ok none ∧ expand? " P6 ...\t+0_3" = .ok (some [3, 4, 5, 6]) := by
  decide

/-- A range can mean more points than a list may have, whatever stands beside it in a list. -/
theorem expand?_fails_long :
    (∃ ids, Means (Text.lower (Text.trim "p1..p99999999999999999999".toList)) ids) ∧
      expand? "p1..p99999999999999999999" = .error .rangeTooLong ∧
      expandList? "p1..p99999999999999999999, x" = .error .rangeTooLong := by
  refine ⟨⟨_, .range ?_ (countsUp_between 1 99999999999999999999)⟩, by decide, by decide⟩
  exact (ends?_eq_some_iff fun _ member => Text.isSmall_of_mem_lower member).mp (by decide)

end SceneEditor.PointRange
