import SceneEditor.Proofs.Timeline.Arithmetic

namespace SceneEditor

/-!
# Times that are clamped

The seconds that the pointer has moved may be infinite, but they are a number under settings that pass
their check: the span and, where it is positive, the width of the track are finite and not zero.  So
the comparisons that clamp the times of a clip find two numbers each.
-/

namespace Track

open Binary64

variable {settings : TimelineSettings}

theorem real_nearest_le_zero (num den : Nat) :
    (Num.real (nearest true num den)).le 0 = true := by
  rw [nearest_eq]
  split
  · next bounded =>
    refine (Num.le_iff_of_places (Num.place?_finite _ _) Num.place?_zero).mpr ?_
    rw [Num.Line.ofUnits_le_ofUnits]
    simp only [signedUnits, if_true]
    omega
  · rfl

/-- A finite number less one that is not negative is not positive, or is finite and not zero. -/
theorem sub_cases
    {s t : Bool}
    {a b : Fin finiteCount}
    (notNegative : 0 ≤ signedUnits t b) :
    (Num.real ((finite s a).sub (.finite t b))).le 0 = true ∨
      ∃ rank : Fin finiteCount,
        (finite s a).sub (.finite t b) = .finite false rank ∧ (rank : Nat) ≠ 0 := by
  have isDifference : signedUnits s a + signedUnits (!t) b = signedUnits s a - signedUnits t b := by
    rw [signedUnits_not]
    rfl
  have small := signedUnits_le s a
  rw [sub, neg, add, isDifference]
  have bounded : signedUnits s a - signedUnits t b ≤ units a := by
    omega
  generalize signedUnits s a - signedUnits t b = difference at bounded ⊢
  rcases Int.lt_trichotomy difference 0 with negative | rfl | positive
  · left
    rw [if_neg (Int.ne_of_lt negative), decide_eq_true negative]
    exact real_nearest_le_zero _ _
  · left
    rw [if_pos rfl]
    cases s && !t
    · decide +kernel
    · decide +kernel
  · right
    obtain ⟨num, rfl⟩ := Int.eq_ofNat_of_zero_le (Int.le_of_lt positive)
    have notAbove : nearestRank num 1 ≤ a := nearestRank_le Nat.one_pos (by omega)
    have notBelow : 1 ≤ nearestRank num 1 :=
      le_nearestRank Nat.one_pos (by rw [units_of_lt (by decide)]; omega)
    rw [if_neg (Int.ne_of_gt positive), decide_eq_false (by omega), Int.natAbs_natCast, nearest_eq,
      dif_pos (Nat.lt_of_le_of_lt notAbove a.isLt)]
    exact ⟨_, rfl, Nat.ne_of_gt notBelow⟩

/-- A distance of the pointer is a number of seconds. -/
theorem seconds_isNumber
    (passes : settings.Passes)
    {area x down : Binary64}
    (ofArea : area.isFinite = true)
    (ofX : x.isFinite = true)
    (ofDown : down.isFinite = true) :
    ∃ trackWidth delta,
      width (.real area) settings.gutter = .ok trackWidth ∧
        seconds (.real (x.sub down)) trackWidth settings.maxTime = .ok (.real delta) ∧
        delta.isNan = false := by
  obtain ⟨t, b, ofGutter, notNegative⟩ := passes.exists_gutter
  obtain ⟨span, ofMaxTime, notZero⟩ := passes.exists_span
  obtain ⟨s, a, rfl⟩ := exists_of_isFinite ofArea
  have measured := Num.real_sub (finite s a) ofGutter
  have distance : (x.sub down).isNan = false :=
    isNan_sub (isNan_of_isFinite ofX) (isNan_of_isFinite ofDown) (Or.inl ofX)
  by_cases none : (Num.real ((finite s a).sub (finite t b))).le 0 = true
  · exact ⟨_, 0, measured, if_pos none, by decide +kernel⟩
  · obtain ⟨rank, isWidth, notZeroWidth⟩ := (sub_cases notNegative).resolve_left none
    rw [isWidth] at measured none
    have divided := isNan_div distance false notZeroWidth
    refine ⟨_, _, measured, ?_, isNan_mul divided false notZero⟩
    rw [seconds, if_neg none]
    exact Num.real_mul _ ofMaxTime

end Track

namespace Grip

open Binary64

/-- What each way to move a clip keeps to; the sums and the differences are rounded ones. -/
def Clamps (settings : TimelineSettings) (origin moved : Track.Span) : Grip → Prop
  | .leftEdge =>
      moved.stop = origin.stop ∧
        (settings.shortest.le origin.stop = true →
          Num.le 0 moved.start = true ∧
            ∃ latest, origin.stop.sub settings.shortest = .ok latest ∧
              moved.start.le latest = true)
  | .rightEdge =>
      moved.start = origin.start ∧
        ∃ earliest, origin.start.add settings.shortest = .ok earliest ∧
          earliest.le moved.stop = true
  | .body =>
      Num.le 0 moved.start = true ∧
        ∃ duration, origin.stop.sub origin.start = .ok duration ∧
          moved.start.add duration = .ok moved.stop

variable {settings : TimelineSettings} {start stop delta : Binary64}

/-- A number has a place on the line. -/
theorem exists_place
    {value : Binary64}
    (isNumber : value.isNan = false) :
    ∃ place, (Num.real value).place? = some place :=
  Num.isNan_eq_false_iff.mp isNumber

/-- A time that is moved by a number of seconds has a place. -/
theorem exists_place_add
    {time : Binary64}
    (finite : time.isFinite = true)
    (isNumber : delta.isNan = false) :
    ∃ place, (Num.real (time.add delta)).place? = some place :=
  exists_place (isNan_add (isNan_of_isFinite finite) isNumber (Or.inl finite))

/-- A clip that is moved as a whole starts at zero or later, and its times are numbers. -/
theorem shift_clamps
    (ofStart : start.isFinite = true)
    (short : (stop.sub start).isFinite = true)
    (isNumber : delta.isNan = false) :
    let newStart := (start.add delta).max 0
    newStart.isNan = false ∧
      (newStart.add (stop.sub start)).isNan = false ∧
      Num.le 0 (.real newStart) = true := by
  intro newStart
  obtain ⟨moved, ofMoved⟩ := exists_place_add ofStart isNumber
  have placed := Num.place?_max ofMoved Num.place?_real_zero
  rw [Num.max_real] at placed
  have ofNewStart : newStart.isNan = false := Num.isNan_eq_false_iff.mpr ⟨_, placed⟩
  exact ⟨ofNewStart, isNan_add ofNewStart (isNan_of_isFinite short) (Or.inr short),
    (Num.le_iff_of_places Num.place?_zero placed).mpr le_sup_right⟩

/-- A start that is moved stays between zero and the latest one, unless the latest one is before zero. -/
theorem resizeLeft_clamps
    {latest : Binary64}
    (ofStart : start.isFinite = true)
    (isNumber : delta.isNan = false)
    (ofLatest : latest.isNan = false) :
    let newStart := (((start.add delta).max 0).min latest).max 0
    newStart.isNan = false ∧
      Num.le 0 (.real newStart) = true ∧
      (Num.le 0 (.real latest) = true → (Num.real newStart).le (.real latest) = true) := by
  intro newStart
  obtain ⟨moved, ofMoved⟩ := exists_place_add ofStart isNumber
  obtain ⟨limit, ofLimit⟩ := exists_place ofLatest
  have placed :=
    Num.place?_max (Num.place?_min (Num.place?_max ofMoved Num.place?_real_zero) ofLimit)
      Num.place?_real_zero
  rw [Num.max_real, Num.min_real, Num.max_real] at placed
  refine ⟨Num.isNan_eq_false_iff.mpr ⟨_, placed⟩,
    (Num.le_iff_of_places Num.place?_zero placed).mpr le_sup_right, fun notNegative => ?_⟩
  have zeroLe := (Num.le_iff_of_places Num.place?_zero ofLimit).mp notNegative
  exact (Num.le_iff_of_places placed ofLimit).mpr (sup_le inf_le_right zeroLe)

/-- An end that is moved stays at the earliest one or after it. -/
theorem resizeRight_clamps
    {earliest : Binary64}
    (ofStop : stop.isFinite = true)
    (isNumber : delta.isNan = false)
    (ofEarliest : earliest.isNan = false) :
    let newStop := (stop.add delta).max earliest
    newStop.isNan = false ∧ (Num.real earliest).le (.real newStop) = true := by
  intro newStop
  obtain ⟨moved, ofMoved⟩ := exists_place_add ofStop isNumber
  obtain ⟨limit, ofLimit⟩ := exists_place ofEarliest
  have placed := Num.place?_max ofMoved ofLimit
  rw [Num.max_real] at placed
  exact ⟨Num.isNan_eq_false_iff.mpr ⟨_, placed⟩,
    (Num.le_iff_of_places ofLimit placed).mpr le_sup_right⟩

/-- The latest start is not before zero if the clip does not end before the shortest duration. -/
theorem latest_notNegative
    {s t : Bool}
    {a b : Fin finiteCount}
    (notAbove : signedUnits t b ≤ signedUnits s a) :
    Num.le 0 (.real ((finite s a).sub (.finite t b))) = true := by
  obtain ⟨difference, isDifference⟩ := Int.eq_ofNat_of_zero_le (Int.sub_nonneg.mpr notAbove)
  have isSum : signedUnits s a + signedUnits (!t) b = difference := by
    rw [signedUnits_not]
    exact isDifference
  refine (Num.le_iff_of_places Num.place?_zero (Num.place?_add isSum)).mpr ?_
  have atZero : Num.Line.ofRank 0 = .ofUnits 0 := Num.Line.ofRank_of_lt (by decide)
  rw [← atZero]
  exact Num.Line.ofRank_le_ofRank (Nat.zero_le _)

/-- What a grip makes of a change is clamped. -/
theorem move_clamps
    (passes : settings.Passes)
    (grip : Grip)
    (ofStart : start.isFinite = true)
    (ofStop : stop.isFinite = true)
    (short : grip = .body → (stop.sub start).isFinite = true)
    (isNumber : delta.isNan = false) :
    ∃ newStart newStop,
      grip.move settings { start := .real start, stop := .real stop } (.real delta) =
          .ok { start := .real newStart, stop := .real newStop } ∧
        newStart.isNan = false ∧ newStop.isNan = false ∧
        grip.Clamps settings { start := .real start, stop := .real stop }
          { start := .real newStart, stop := .real newStop } := by
  obtain ⟨sign, least, ofShortest, notAbove⟩ := passes.exists_shortest
  cases grip with
  | body =>
      obtain ⟨startIsNumber, stopIsNumber, notNegative⟩ := shift_clamps ofStart (short rfl) isNumber
      exact ⟨_, _, Track.shift_real start stop delta, startIsNumber, stopIsNumber, notNegative,
        .real (stop.sub start), rfl, rfl⟩
  | leftEdge =>
      have ofLatest : (stop.sub (finite sign least)).isNan = false :=
        isNan_sub (isNan_of_isFinite ofStop) rfl (Or.inl ofStop)
      obtain ⟨startIsNumber, notNegative, early⟩ := resizeLeft_clamps ofStart isNumber ofLatest
      refine ⟨_, _, Track.resizeLeft_real start stop delta ofShortest, startIsNumber,
        isNan_of_isFinite ofStop, rfl, fun long => ⟨notNegative, _, Num.real_sub stop ofShortest, ?_⟩⟩
      obtain ⟨negative, time, rfl⟩ := exists_of_isFinite ofStop
      exact early (latest_notNegative (notAbove negative time long))
  | rightEdge =>
      have ofEarliest : (start.add (finite sign least)).isNan = false :=
        isNan_add (isNan_of_isFinite ofStart) rfl (Or.inl ofStart)
      obtain ⟨stopIsNumber, late⟩ := resizeRight_clamps ofStop isNumber ofEarliest
      exact ⟨_, _, Track.resizeRight_real start stop delta ofShortest, isNan_of_isFinite ofStart,
        stopIsNumber, rfl, _, Num.real_add start ofShortest, late⟩

end Grip

/-!
## Times of moderate size
-/

/-- The time is no further from zero than `10 ^ 300`. -/
structure Binary64.IsModerate (time : Binary64) : Prop where
  above : (Num.real (ofDecimal true 1 300)).le (.real time) = true
  below : (Num.real time).le (.real (ofDecimal false 1 300)) = true

namespace Binary64

/-- A power of two far above the moderate numbers, of which two can still be added. -/
def moderateRank : Fin finiteCount :=
  ⟨2044 * 2 ^ 52, by decide⟩

/-- A moderate time is a finite number of bounded size. -/
theorem IsModerate.exists_finite
    {time : Binary64}
    (moderate : time.IsModerate) :
    ∃ negative rank, time = .finite negative rank ∧
      (signedUnits negative rank).natAbs ≤ units moderateRank := by
  have lower : (Num.real (.finite true moderateRank)).le (.real (ofDecimal true 1 300)) = true := by
    decide +kernel
  have upper : (Num.real (ofDecimal false 1 300)).le (.real (.finite false moderateRank)) = true := by
    decide +kernel
  have notBelow := Num.le_of_le_of_le lower moderate.above
  have notAbove := Num.le_of_le_of_le moderate.below upper
  obtain ⟨-, place, -, placed, -⟩ := Num.le_iff.mp notBelow
  rw [Num.le_iff_of_places (Num.place?_finite _ _) placed] at notBelow
  rw [Num.le_iff_of_places placed (Num.place?_finite _ _)] at notAbove
  obtain ⟨units, rfl, notBelow, notAbove⟩ := Num.Line.exists_ofUnits_between notBelow notAbove
  obtain ⟨negative, rank, rfl, rfl⟩ := Num.exists_finite_of_place placed
  refine ⟨negative, rank, rfl, ?_⟩
  simp only [signedUnits, if_true, Bool.false_eq_true, if_false] at notBelow notAbove ⊢
  omega

theorem IsModerate.isFinite
    {time : Binary64}
    (moderate : time.IsModerate) :
    time.isFinite = true := by
  obtain ⟨negative, rank, rfl, -⟩ := moderate.exists_finite
  rfl

/-- The difference of moderate times is finite. -/
theorem IsModerate.sub_isFinite
    {start stop : Binary64}
    (ofStart : start.IsModerate)
    (ofStop : stop.IsModerate) :
    (stop.sub start).isFinite = true := by
  obtain ⟨s, a, rfl, startSmall⟩ := ofStart.exists_finite
  obtain ⟨t, b, rfl, stopSmall⟩ := ofStop.exists_finite
  have inRange : 2 * units moderateRank < 2 ^ safeBits := by
    decide +kernel
  rw [sub, neg, add, signedUnits_not]
  split
  · rfl
  · refine nearest_isFinite (Nat.le_refl safeBits) ?_ _
    rw [Nat.div_one]
    omega

end Binary64

/-- The times of a dragged clip are numbers and keep to the rules of the grip. -/
theorem Grip.timesAt_clamps
    {settings : TimelineSettings}
    (passes : settings.Passes)
    (grip : Grip)
    {start stop : Binary64}
    (ofStart : start.isFinite = true)
    (ofStop : stop.isFinite = true)
    (short : grip = .body → (stop.sub start).isFinite = true)
    {down area x : Binary64}
    (ofDown : down.isFinite = true)
    (ofArea : area.isFinite = true)
    (ofX : x.isFinite = true) :
    ∃ newStart newStop,
      grip.timesAt settings { start := .real start, stop := .real stop } (.real down) (.real area)
            (.real x) =
          .ok { start := .real newStart, stop := .real newStop } ∧
        newStart.isNan = false ∧ newStop.isNan = false ∧
        grip.Clamps settings { start := .real start, stop := .real stop }
          { start := .real newStart, stop := .real newStop } := by
  obtain ⟨trackWidth, delta, measured, isDelta, isNumber⟩ :=
    Track.seconds_isNumber passes ofArea ofX ofDown
  obtain ⟨newStart, newStop, moved, clamped⟩ :=
    grip.move_clamps passes ofStart ofStop short isNumber
  refine ⟨newStart, newStop, ?_, clamped⟩
  have isDistance : (Num.real x).sub (.real down) = .ok (.real (x.sub down)) := rfl
  rw [Grip.timesAt, measured, isDistance]
  simp only [Attempt.ok_bind, isDelta]
  exact moved

end SceneEditor
