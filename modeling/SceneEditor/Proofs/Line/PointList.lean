import SceneEditor.Command.Basic
import SceneEditor.Line.PointRange
import SceneEditor.Proofs.Attempt
import SceneEditor.Proofs.Number.Numeral
import SceneEditor.Proofs.Text.Blank
import SceneEditor.Proofs.Text.LetterCase

namespace SceneEditor

/-!
# Written lists of points

A list of points is written with each point by itself, negative ones included, and it is read back
as the points that it was written from.  The points of a list that was read have no more digits than
a numeral may have, so such a list can always be written and read again.
-/

/-- The texts of a listing are found between its commas, each but the first behind a space. -/
theorem pieces_commaList
    {first : String}
    {others : List String}
    (absent : ∀ text ∈ first :: others, ',' ∉ text.toList) :
    Text.pieces ',' (commaList (first :: others)).toList =
      first.toList :: others.map fun text => ' ' :: text.toList := by
  induction others generalizing first with
  | nil =>
      simpa [commaList] using Text.pieces_of_notMem (absent first List.mem_cons_self)
  | cons next others inductionHypothesis =>
      have firstAbsent : ',' ∉ first.toList :=
        absent first List.mem_cons_self
      have rest :=
        inductionHypothesis fun text member => absent text (List.mem_cons_of_mem _ member)
      have shape :
          (commaList (first :: next :: others)).toList =
            first.toList ++ ',' :: ' ' :: (commaList (next :: others)).toList := by
        simp [commaList]
      have behindSpace (text : List Char) :
          Text.pieces ',' (' ' :: text) =
            (' ' :: (Text.pieces ',' text).headD []) :: (Text.pieces ',' text).tail := by
        cases pieces : Text.pieces ',' text <;> simp [Text.pieces, pieces]
      rw [shape, Text.pieces_append_cons firstAbsent, behindSpace, rest]
      rfl

/-- A listing begins with its first text. -/
theorem commaList_cons
    (first : String)
    (others : List String) :
    ∃ tail, (commaList (first :: others)).toList = first.toList ++ tail := by
  cases others with
  | nil =>
      exact ⟨[], by simp [commaList]⟩
  | cons next others =>
      exact ⟨", ".toList ++ (commaList (next :: others)).toList, by simp [commaList]⟩

/-- A character of a listing is in one of its texts or between two of them. -/
theorem mem_of_mem_commaList
    {c : Char}
    {texts : List String}
    (member : c ∈ (commaList texts).toList) :
    c = ',' ∨ c = ' ' ∨ ∃ text ∈ texts, c ∈ text.toList := by
  have joined (pieces : List (List Char)) (inside : c ∈ [',', ' '].intercalate pieces) :
      c = ',' ∨ c = ' ' ∨ ∃ piece ∈ pieces, c ∈ piece := by
    induction pieces with
    | nil =>
        exact absurd inside (by simp)
    | cons piece others inductionHypothesis =>
        cases others with
        | nil =>
            exact Or.inr (Or.inr ⟨piece, List.mem_cons_self, by simpa using inside⟩)
        | cons next others =>
            simp only [List.intercalate_cons_cons, List.mem_append, List.mem_cons,
              List.not_mem_nil, or_false] at inside
            grind
  simpa [commaList] using joined (texts.map String.toList) (by simpa [commaList] using member)

/-!
## The characters of a list
-/

/-- The characters that points are written with. -/
def pointCharacters : List Char :=
  "p-0123456789".toList

theorem mem_pointCharacters_of_isDigit
    {c : Char}
    (digit : c.isDigit = true) :
    c ∈ pointCharacters :=
  Text.of_isDigit (· ∈ pointCharacters) (by decide) digit

theorem mem_pointCharacters_of_mem_toString
    {id : Int}
    {c : Char}
    (member : c ∈ (toString id).toList) :
    c ∈ pointCharacters := by
  have digits (magnitude : Nat) (inDigits : c ∈ Nat.toDigits 10 magnitude) :
      c ∈ pointCharacters :=
    mem_pointCharacters_of_isDigit
      (Nat.isDigit_of_mem_toDigits (by decide) (by decide) inDigits)
  cases id with
  | ofNat magnitude =>
      exact digits magnitude (by simpa [toString, Int.repr] using member)
  | negSucc less =>
      have shape : c = '-' ∨ c ∈ Nat.toDigits 10 (less + 1) := by
        simpa [toString, Int.repr] using member
      rcases shape with rfl | inDigits
      · decide
      · exact digits (less + 1) inDigits

/-- The name of a point is a `p` with the id behind it. -/
theorem toList_pointRef (id : Int) :
    (pointRef id).toList = 'p' :: (toString id).toList := by
  simp [pointRef]

/-- The names of points are made of the characters for points. -/
theorem mem_pointCharacters_of_mem_pointRef
    {id : Int}
    {c : Char}
    (member : c ∈ (pointRef id).toList) :
    c ∈ pointCharacters := by
  rw [toList_pointRef] at member
  rcases List.mem_cons.mp member with rfl | inNumber
  · decide
  · exact mem_pointCharacters_of_mem_toString inNumber

/-- Points are written in small letters. -/
theorem lower_pointRef (id : Int) :
    Text.lower (pointRef id).toList = (pointRef id).toList := by
  have small : ∀ c ∈ pointCharacters, c.toNat < 0x80 ∧ c.toLower = c :=
    Text.forall_of_all (by decide)
  exact Text.lower_of_small fun c member => small c (mem_pointCharacters_of_mem_pointRef member)

/-- A text of characters that points are written with has no blanks to drop. -/
theorem trim_of_pointCharacters
    {text : List Char}
    (points : ∀ c ∈ text, c ∈ pointCharacters) :
    Text.trim text = text := by
  have kept : ∀ c ∈ pointCharacters, Text.isBlank c = false :=
    Text.forall_of_all (by decide)
  exact Text.trimWhile_of_forall fun c member => kept c (points c member)

/-- What is neither in a point nor between two of them is not in a list of points. -/
theorem notMem_commaList
    {c : Char}
    (notPoint : c ∉ ',' :: ' ' :: pointCharacters)
    (ids : List Int) :
    c ∉ (commaList (ids.map pointRef)).toList := by
  intro member
  apply notPoint
  rcases mem_of_mem_commaList member with rfl | rfl | ⟨text, inTexts, inText⟩
  · exact List.mem_cons_self
  · exact List.mem_cons_of_mem _ List.mem_cons_self
  · obtain ⟨id, -, rfl⟩ := List.mem_map.mp inTexts
    exact List.mem_cons_of_mem _
      (List.mem_cons_of_mem _ (mem_pointCharacters_of_mem_pointRef inText))

namespace PointRange

/-!
## Reading a list that was written
-/

/-- The name of a point is read as its id, which has no more digits than are read. -/
theorem pointId?_pointRef
    {id : Int}
    (short : id.natAbs < 10 ^ NumberError.digitLimit) :
    pointId? (pointRef id).toList = some id := by
  have kept : Text.trim (pointRef id).toList = (pointRef id).toList :=
    trim_of_pointCharacters fun c member => mem_pointCharacters_of_mem_pointRef member
  have keptNumber : Text.trim (toString id).toList = (toString id).toList :=
    trim_of_pointCharacters fun c member => mem_pointCharacters_of_mem_toString member
  rw [pointId?, kept, lower_pointRef, toList_pointRef]
  simp only [keptNumber, String.ofList_toList, Numeral.integer?_toString_int short]
  rfl

/-- A point that was written is read again, with blanks around it or without. -/
theorem expand?_pointRef
    {id : Int}
    {text : String}
    (short : id.natAbs < 10 ^ NumberError.digitLimit)
    (written : Text.trim text.toList = (pointRef id).toList) :
    expand? text = .ok (some [id]) := by
  have noDot : '.' ∉ (pointRef id).toList := by
    intro member
    exact absurd (mem_pointCharacters_of_mem_pointRef member) (by decide)
  have single : Text.occurs ['.', '.'] (pointRef id).toList = false := by
    rw [Text.occurs, Text.cutAt?_eq_none_of_notMem ['.'] noDot]
    rfl
  have nonempty : (pointRef id).toList.isEmpty = false := by
    rw [toList_pointRef]
    rfl
  rw [expand?, written, lower_pointRef]
  simp [nonempty, single, pointId?_pointRef short]

/-- A member for one point goes in front of the points of the others. -/
theorem expandAll?_cons
    {id : Int}
    {ids : List Int}
    {member : List Char}
    {others : List (List Char)}
    (first : expand? (String.ofList member) = .ok (some [id]))
    (rest : expandAll? others = .ok (some ids)) :
    expandAll? (member :: others) = .ok (some (id :: ids)) := by
  rw [expandAll?, first]
  simp [bind, Except.bind, pure, Except.pure, rest]

/-- Members for one point each are read as those points. -/
theorem expandAll?_map
    {ids : List Int}
    {written : Int → List Char}
    (single : ∀ id ∈ ids, expand? (String.ofList (written id)) = .ok (some [id])) :
    expandAll? (ids.map written) = .ok (some ids) := by
  induction ids with
  | nil =>
      rfl
  | cons id others inductionHypothesis =>
      have rest :=
        inductionHypothesis fun other member => single other (List.mem_cons_of_mem id member)
      exact expandAll?_cons (single id List.mem_cons_self) rest

/-- A list that was written is read as the points that it was written from. -/
theorem expandList?_commaList
    {ids : List Int}
    (short : ∀ id ∈ ids, id.natAbs < 10 ^ NumberError.digitLimit) :
    expandList? (commaList (ids.map pointRef)) = .ok (some ids) := by
  -- the first point has no space in front of it, so it is apart from the others
  cases ids with
  | nil =>
      rfl
  | cons id others =>
      have absent : ∀ text ∈ (id :: others).map pointRef, ',' ∉ text.toList := by
        intro text inTexts member
        obtain ⟨other, -, rfl⟩ := List.mem_map.mp inTexts
        exact absurd (mem_pointCharacters_of_mem_pointRef member) (by decide)
      have trimmed (other : Int) : Text.trim (pointRef other).toList = (pointRef other).toList :=
        trim_of_pointCharacters fun c member => mem_pointCharacters_of_mem_pointRef member
      have first : expand? (String.ofList (pointRef id).toList) = .ok (some [id]) := by
        refine expand?_pointRef (short id List.mem_cons_self) ?_
        rw [String.toList_ofList, trimmed]
      have rest :
          expandAll? (others.map fun other => ' ' :: (pointRef other).toList) =
            .ok (some others) := by
        refine expandAll?_map fun other member => ?_
        refine expand?_pointRef (short other (List.mem_cons_of_mem id member)) ?_
        rw [String.toList_ofList, Text.trim_cons_of_blank (by decide), trimmed]
      have notBlank :
          (commaList ((id :: others).map pointRef)).toList.all Text.isBlank = false := by
        obtain ⟨tail, shape⟩ := commaList_cons (pointRef id) (others.map pointRef)
        rw [List.map_cons, shape, toList_pointRef]
        rfl
      rw [expandList?, notBlank, if_neg Bool.false_ne_true, List.map_cons, pieces_commaList absent,
        List.map_map]
      exact expandAll?_cons first rest

/-!
## The points of a list that was read
-/

/-- The id of a point that is read has no more digits than are read. -/
theorem natAbs_lt_of_pointId?
    {token : List Char}
    {id : Int}
    (read : pointId? token = some id) :
    id.natAbs < 10 ^ NumberError.digitLimit := by
  unfold pointId? at read
  exact Numeral.natAbs_lt_of_integer? (Attempt.eq_ok_of_toOption read)

theorem natAbs_lt_of_ends?
    {body : List Char}
    {start stop : Int}
    (read : ends? body = some (start, stop)) :
    start.natAbs < 10 ^ NumberError.digitLimit ∧ stop.natAbs < 10 ^ NumberError.digitLimit := by
  unfold ends? at read
  split at read
  · obtain ⟨first, firstRead, read⟩ := Option.bind_eq_some_iff.mp read
    obtain ⟨last, lastRead, same⟩ := Option.bind_eq_some_iff.mp read
    obtain ⟨rfl, rfl⟩ := Prod.mk.inj (Option.some.inj same)
    exact ⟨natAbs_lt_of_pointId? firstRead, natAbs_lt_of_pointId? lastRead⟩
  · exact absurd read (by simp)

/-- The numbers between two ends are no longer than the longer end. -/
theorem natAbs_lt_of_mem_idsBetween
    {start stop id : Int}
    {ids : List Int}
    {limit : Nat}
    (startShort : start.natAbs < limit)
    (stopShort : stop.natAbs < limit)
    (between : idsBetween start stop = .ok ids)
    (member : id ∈ ids) :
    id.natAbs < limit := by
  rw [idsBetween] at between
  split at between
  · exact absurd between (by simp)
  · rw [← Except.ok.inj between] at member
    obtain ⟨offset, inRange, rfl⟩ := List.mem_map.mp member
    have bounded := List.mem_range.mp inRange
    omega

theorem natAbs_lt_of_expand?
    {text : String}
    {ids : List Int}
    (read : expand? text = .ok (some ids)) :
    ∀ id ∈ ids, id.natAbs < 10 ^ NumberError.digitLimit := by
  intro id member
  unfold expand? at read
  dsimp only at read
  split at read
  · exact absurd read (by simp)
  · split at read
    · split at read
      · next start stop ends =>
        obtain ⟨between, counted, same⟩ := Attempt.map_eq_ok_iff.mp read
        obtain rfl := Option.some.inj same
        obtain ⟨startShort, stopShort⟩ := natAbs_lt_of_ends? ends
        exact natAbs_lt_of_mem_idsBetween startShort stopShort counted member
      · exact absurd read (by simp)
    · obtain ⟨only, isPoint, rfl⟩ := Option.map_eq_some_iff.mp (Except.ok.inj read)
      obtain rfl := List.mem_singleton.mp member
      exact natAbs_lt_of_pointId? isPoint

/-- The ids of a list that is read have no more digits than are read. -/
theorem natAbs_lt_of_expandAll?
    {members : List (List Char)}
    {ids : List Int}
    (read : expandAll? members = .ok (some ids)) :
    ∀ id ∈ ids, id.natAbs < 10 ^ NumberError.digitLimit := by
  induction members generalizing ids with
  | nil =>
      obtain rfl := Option.some.inj (Except.ok.inj read)
      simp
  | cons member others inductionHypothesis =>
      rw [expandAll?] at read
      obtain ⟨first?, firstRead, read⟩ := Attempt.bind_eq_ok_iff.mp read
      cases first? with
      | none =>
          exact absurd (Except.ok.inj read) (by simp)
      | some first =>
          obtain ⟨rest?, restRead, shape⟩ := Attempt.bind_eq_ok_iff.mp read
          obtain ⟨rest, rfl, rfl⟩ := Option.map_eq_some_iff.mp (Except.ok.inj shape)
          intro id inEither
          rcases List.mem_append.mp inEither with inFirst | inRest
          · exact natAbs_lt_of_expand? firstRead id inFirst
          · exact inductionHypothesis restRead id inRest

/-- The points of a list that was read are short enough to be written and read again. -/
theorem natAbs_lt_of_expandList?
    {body : String}
    {ids : List Int}
    (read : expandList? body = .ok (some ids)) :
    ∀ id ∈ ids, id.natAbs < 10 ^ NumberError.digitLimit := by
  unfold expandList? at read
  split at read
  · obtain rfl := Option.some.inj (Except.ok.inj read)
    simp
  · exact natAbs_lt_of_expandAll? read

end PointRange

end SceneEditor
