import SceneEditor.Proofs.Timeline.Following
import SceneEditor.Proofs.Timeline.Settings

namespace SceneEditor

/-!
# Times that can be computed

The times of a dragged clip are floating-point numbers, and computing them fails only where an
integer is too large for the format.  This cannot happen under settings that pass their check as long
as the positions of the pointer and the widths are floating-point numbers or integers far below
the largest one.
-/

open Attempt

/-- How many bits the integers among positions and widths may have. -/
def Num.positionBits : Nat := 1021

/-- A floating-point number, or an integer of few bits. -/
def Num.HasBits (bits : Nat) : Num → Prop
  | .int value => value.natAbs < 2 ^ bits
  | .real _ => True

instance (bits : Nat) (number : Num) : Decidable (number.HasBits bits) :=
  match number with
  | .int value => inferInstanceAs (Decidable (value.natAbs < 2 ^ bits))
  | .real _ => inferInstanceAs (Decidable True)

/-- A number that may stand for a position or a width. -/
def Num.IsPosition (number : Num) : Prop :=
  number.HasBits positionBits

instance (number : Num) : Decidable number.IsPosition :=
  inferInstanceAs (Decidable (number.HasBits Num.positionBits))

/-- The step gives a floating-point number. -/
def Attempt.GivesReal (step : Except NumberError Num) : Prop :=
  ∃ real, step = .ok (.real real)

namespace Num

/-- A number of few bits converts to a real number. -/
theorem HasBits.succeeds
    {number : Num}
    {bits : Nat}
    (few : bits ≤ Binary64.safeIntegerBits)
    (small : number.HasBits bits) :
    Succeeds number.toReal := by
  cases number with
  | real value =>
      exact succeeds_ok value
  | int value =>
      have small : value.natAbs < 2 ^ Binary64.safeIntegerBits :=
        Nat.lt_of_lt_of_le small (Nat.pow_le_pow_right Nat.zero_lt_two few)
      refine (toReal_failsIf (.int value)).succeeds ?_
      rintro ⟨other, negative, isInteger, infinite⟩
      cases isInteger
      have finite := Binary64.ofInt_isFinite small
      rw [infinite] at finite
      exact Bool.false_ne_true finite

/-- An operation on numbers that can be rounded, one of which is a floating-point number. -/
theorem combine_givesReal
    (exact : Int → Int → Int)
    (rounded : Binary64 → Binary64 → Binary64)
    {left right : Num}
    (ofLeft : Succeeds left.toReal)
    (ofRight : Succeeds right.toReal)
    (notBoth : ∀ l r, left = .int l → right ≠ .int r) :
    GivesReal (combine exact rounded left right) := by
  obtain ⟨l, ofLeft⟩ := ofLeft
  obtain ⟨r, ofRight⟩ := ofRight
  refine ⟨rounded l r, ?_⟩
  rw [combine]
  · rw [ofLeft, ofRight]
    rfl
  · exact notBoth

section

variable {right : Num} {r : Binary64}

/-- An operation with a floating-point number rounds the other one. -/
theorem combine_real
    (exact : Int → Int → Int)
    (rounded : Binary64 → Binary64 → Binary64)
    (left : Binary64)
    (ofRight : right.toReal = .ok r) :
    combine exact rounded (.real left) right = .ok (.real (rounded left r)) := by
  rw [combine]
  · rw [ofRight]
    rfl
  · exact fun _ _ isInt => nomatch isInt

theorem real_add
    (left : Binary64)
    (ofRight : right.toReal = .ok r) :
    (real left).add right = .ok (.real (left.add r)) :=
  combine_real (· + ·) Binary64.add left ofRight

theorem real_sub
    (left : Binary64)
    (ofRight : right.toReal = .ok r) :
    (real left).sub right = .ok (.real (left.sub r)) :=
  combine_real (· - ·) Binary64.sub left ofRight

theorem real_mul
    (left : Binary64)
    (ofRight : right.toReal = .ok r) :
    (real left).mul right = .ok (.real (left.mul r)) :=
  combine_real (· * ·) Binary64.mul left ofRight

end

/-- A difference has one bit more at most. -/
theorem sub_hasBits
    {left right : Num}
    {bits : Nat}
    (few : bits ≤ Binary64.safeIntegerBits)
    (ofLeft : left.HasBits bits)
    (ofRight : right.HasBits bits) :
    ∃ difference, left.sub right = .ok difference ∧ difference.HasBits (bits + 1) := by
  by_cases isInt : ∃ l r, left = .int l ∧ right = .int r
  · obtain ⟨l, r, rfl, rfl⟩ := isInt
    refine ⟨.int (l - r), rfl, ?_⟩
    change l.natAbs < 2 ^ bits at ofLeft
    change r.natAbs < 2 ^ bits at ofRight
    change (l - r).natAbs < 2 ^ (bits + 1)
    rw [Nat.pow_succ]
    omega
  · obtain ⟨difference, isReal⟩ :=
      combine_givesReal (· - ·) Binary64.sub (ofLeft.succeeds few) (ofRight.succeeds few)
        fun l r isLeft isRight => isInt ⟨l, r, isLeft, isRight⟩
    exact ⟨.real difference, isReal, trivial⟩

/-- A quotient is within the range of the format if the number that is divided has few bits. -/
theorem div_givesReal
    {left right : Num}
    {bits : Nat}
    (few : bits ≤ Binary64.safeIntegerBits)
    (ofLeft : left.HasBits bits)
    (ofRight : Succeeds right.toReal) :
    GivesReal (left.div right) := by
  rw [div.eq_def]
  have inRange : bits + Binary64.unitBits ≤ Binary64.safeBits :=
    Nat.le_trans (Nat.add_le_add_right few Binary64.unitBits) (by decide)
  have finite (l r : Int) (small : l.natAbs < 2 ^ bits) (negative : Bool) :
      (Binary64.nearest negative (l.natAbs * unitsPerOne) r.natAbs).isFinite = true :=
    Binary64.nearest_isFinite inRange
      (Nat.lt_of_le_of_lt (Nat.div_le_self _ _) (Binary64.scaled_lt small)) negative
  -- an arbitrary way to round stands for the real one, whose powers are not to be computed
  obtain ⟨round, rounding⟩ : ∃ round, round = Binary64.nearest := ⟨_, rfl⟩
  rw [← rounding]
  rw [← rounding] at finite
  split
  · next l r =>
    dsimp only
    split
    · next infinite =>
      have never := finite l r ofLeft (decide (l < 0) != decide (r < 0))
      rw [infinite] at never
      exact absurd never Bool.false_ne_true
    · exact ⟨_, rfl⟩
  · obtain ⟨l, ofLeft⟩ := ofLeft.succeeds few
    obtain ⟨r, ofRight⟩ := ofRight
    rw [ofLeft, ofRight]
    exact ⟨l.div r, rfl⟩

theorem max_real (left right : Binary64) :
    (real left).max (.real right) = .real (left.max right) :=
  (apply_ite real _ _ _).symm

theorem min_real (left right : Binary64) :
    (real left).min (.real right) = .real (left.min right) :=
  (apply_ite real _ _ _).symm

end Num

namespace Track

variable {settings : TimelineSettings}

/-- A width of the track is not positive, or has no more bits than the area. -/
theorem width_hasBits
    (computable : settings.IsComputable)
    {area : Num}
    (isPosition : area.IsPosition) :
    ∃ trackWidth, width area settings.gutter = .ok trackWidth ∧
      (trackWidth.le 0 = true ∨ trackWidth.IsPosition) := by
  rw [width]
  by_cases isInt : ∃ total gutter, area = .int total ∧ settings.gutter = .int gutter
  · obtain ⟨total, gutter, rfl, isGutter⟩ := isInt
    have notNegative := computable.notNegative
    rw [isGutter] at notNegative ⊢
    refine ⟨.int (total - gutter), rfl, ?_⟩
    change total.natAbs < 2 ^ Num.positionBits at isPosition
    change decide (gutter < 0) = false at notNegative
    rw [decide_eq_false_iff_not] at notNegative
    by_cases positive : 0 < total - gutter
    · right
      change (total - gutter).natAbs < 2 ^ Num.positionBits
      omega
    · left
      change (decide (total - gutter < 0) || decide (total - gutter = 0)) = true
      rw [Bool.or_eq_true, decide_eq_true_eq, decide_eq_true_eq]
      omega
  · obtain ⟨trackWidth, isReal⟩ :=
      Num.combine_givesReal (· - ·) Binary64.sub (isPosition.succeeds (by decide))
        computable.gutter fun total gutter isArea isGutter => isInt ⟨total, gutter, isArea, isGutter⟩
    exact ⟨.real trackWidth, isReal, Or.inr trivial⟩

/-- The seconds that the pointer has moved are a floating-point number. -/
theorem seconds_givesReal
    (computable : settings.IsComputable)
    {distance trackWidth : Num}
    (ofDistance : distance.HasBits (Num.positionBits + 1))
    (ofWidth : trackWidth.le 0 = true ∨ trackWidth.IsPosition) :
    GivesReal (seconds distance trackWidth settings.maxTime) := by
  rw [seconds]
  split
  · exact ⟨0, rfl⟩
  · next positive =>
    have isPosition := ofWidth.resolve_left positive
    obtain ⟨share, isReal⟩ :=
      Num.div_givesReal (by decide) ofDistance (isPosition.succeeds (by decide))
    obtain ⟨span, ofMaxTime⟩ := computable.maxTime
    rw [isReal]
    exact ⟨_, Num.real_mul share ofMaxTime⟩

/-- A clip with real times is moved as a whole. -/
theorem shift_real (start stop delta : Binary64) :
    let newStart := (start.add delta).max 0
    shift { start := .real start, stop := .real stop } (.real delta) =
      .ok { start := .real newStart, stop := .real (newStart.add (stop.sub start)) } := by
  rw [shift, Num.real_sub stop rfl, Num.real_add start rfl]
  simp only [ok_bind, Num.max_real]
  rfl

/-- Resizing at the left, in real numbers. -/
theorem resizeLeft_real
    (start stop delta : Binary64)
    {shortest : Num}
    {least : Binary64}
    (ofShortest : shortest.toReal = .ok least) :
    resizeLeft { start := .real start, stop := .real stop } (.real delta) shortest =
      .ok {
        start := .real ((((start.add delta).max 0).min (stop.sub least)).max 0)
        stop := .real stop } := by
  rw [resizeLeft, Num.real_add start rfl, Num.real_sub stop ofShortest]
  simp only [ok_bind, Num.max_real, Num.min_real]
  rfl

theorem resizeRight_real
    (start stop delta : Binary64)
    {shortest : Num}
    {least : Binary64}
    (ofShortest : shortest.toReal = .ok least) :
    resizeRight { start := .real start, stop := .real stop } (.real delta) shortest =
      .ok {
        start := .real start
        stop := .real ((stop.add delta).max (start.add least)) } := by
  rw [resizeRight, Num.real_add stop rfl, Num.real_add start ofShortest]
  simp only [ok_bind, Num.max_real]
  rfl

end Track

/-- However a clip is moved by real seconds, its real times stay real. -/
theorem Grip.move_givesReals
    {settings : TimelineSettings}
    (computable : settings.IsComputable)
    (grip : Grip)
    (start stop delta : Binary64) :
    ∃ newStart newStop,
      grip.move settings { start := .real start, stop := .real stop } (.real delta) =
        .ok { start := .real newStart, stop := .real newStop } := by
  obtain ⟨least, ofShortest⟩ := computable.shortest
  cases grip with
  | body =>
      exact ⟨_, _, Track.shift_real start stop delta⟩
  | leftEdge =>
      exact ⟨_, _, Track.resizeLeft_real start stop delta ofShortest⟩
  | rightEdge =>
      exact ⟨_, _, Track.resizeRight_real start stop delta ofShortest⟩

/-- The times of a dragged clip are floating-point numbers. -/
theorem Grip.timesAt_givesReals
    {settings : TimelineSettings}
    (computable : settings.IsComputable)
    (grip : Grip)
    (start stop : Binary64)
    {down area x : Num}
    (ofDown : down.IsPosition)
    (ofArea : area.IsPosition)
    (ofX : x.IsPosition) :
    ∃ newStart newStop,
      grip.timesAt settings { start := .real start, stop := .real stop } down area x =
        .ok { start := .real newStart, stop := .real newStop } := by
  obtain ⟨trackWidth, measured, ofWidth⟩ := Track.width_hasBits computable ofArea
  obtain ⟨distance, isDistance, ofDistance⟩ := Num.sub_hasBits (by decide) ofX ofDown
  obtain ⟨delta, isDelta⟩ := Track.seconds_givesReal computable ofDistance ofWidth
  rw [Grip.timesAt, measured, isDistance]
  simp only [ok_bind, isDelta]
  exact grip.move_givesReals computable start stop delta

end SceneEditor
