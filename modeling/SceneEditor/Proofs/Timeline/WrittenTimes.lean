import SceneEditor.Proofs.Number.FixedText
import SceneEditor.Proofs.Timeline.Clamping

namespace SceneEditor

/-!
# Times as they are written

The times of a clip are written with two places each, so that a tenth of a second between them may be
lost.  As long as the edge that is moved has not come to its limit, the texts are a tenth apart; at the
limit they are so unless a middle between two hundredths parts the times.
-/

namespace Binary64

/-- A time about two million years away; numbers below it have neighbours within 2 ^ (-7) seconds. -/
def farTime : Binary64 := 70368744177664

theorem exists_farTime :
    ∃ rank : Fin finiteCount, farTime = .finite false rank ∧ units rank = 2 ^ (53 + 1067) :=
  ⟨⟨1069 * 2 ^ 52, by decide⟩, by decide +kernel, by decide +kernel⟩

/-- The number nearest to a tenth is not below it. -/
theorem exists_tenth :
    ∃ rank : Fin finiteCount,
      Track.shortestDuration = .finite false rank ∧ unitsPerOne ≤ 10 * units rank :=
  ⟨⟨4591870180066957722, by decide⟩, by decide +kernel, by decide +kernel⟩

/-!
## Numbers of units
-/

section

variable {low high tenth : Nat}

/-- Times that are more than a tenth apart are written at least a tenth apart. -/
theorem written_apart
    (isTenth : unitsPerOne ≤ 10 * tenth)
    (apart : low + tenth < high) :
    roundHalfEven (low * 100) unitsPerOne + 10 ≤ roundHalfEven (high * 100) unitsPerOne :=
  roundHalfEven_add_le unitsPerOne_pos (by omega)

/-- Times that are almost a tenth apart are written at least nine hundredths apart. -/
theorem written_near
    (isTenth : unitsPerOne ≤ 10 * tenth)
    (near : low + tenth ≤ high + 2 ^ 1067) :
    roundHalfEven (low * 100) unitsPerOne + 9 ≤ roundHalfEven (high * 100) unitsPerOne := by
  have small : 100 * 2 ^ 1067 < unitsPerOne := by
    decide +kernel
  generalize 2 ^ 1067 = error at near small
  exact roundHalfEven_add_le unitsPerOne_pos (by omega)

/-- A start at the latest one or before it. -/
theorem bounds_of_latest
    {bits : Nat}
    (isLow : ∃ rank, units rank = low)
    (long : tenth ≤ high)
    (notAfter : low ≤ units (nearestRank (high - tenth) 1)) :
    (low < units (nearestRank (high - tenth) 1) → low + tenth < high) ∧
      (high < 2 ^ (53 + bits) → low + tenth ≤ high + 2 ^ bits) := by
  constructor
  · intro before
    obtain ⟨rank, rfl⟩ := isLow
    have below := lt_of_lt_nearestRank Nat.one_pos before
    omega
  · intro few
    have bound := (units_nearestRank (Nat.lt_of_le_of_lt (Nat.sub_le high tenth) few)).1
    omega

/-- An end at the earliest one or after it. -/
theorem bounds_of_earliest
    {bits : Nat}
    (isHigh : ∃ rank, units rank = high)
    (notBefore : units (nearestRank (low + tenth) 1) ≤ high) :
    (units (nearestRank (low + tenth) 1) < high → low + tenth < high) ∧
      (high < 2 ^ (53 + bits) → low + tenth ≤ high + 2 ^ bits) := by
  constructor
  · intro after
    obtain ⟨rank, rfl⟩ := isHigh
    have above := lt_of_nearestRank_lt Nat.one_pos after
    omega
  · intro few
    have small := lt_power_of_nearestRank (Nat.lt_of_le_of_lt notBefore few)
    have bound := (units_nearestRank small).2
    omega

end

/-!
## Places of times
-/

/-- A finite number that is not negative stands at a number of units. -/
theorem exists_place_of_notNegative
    {value : Binary64}
    (finite : value.isFinite = true)
    (notNegative : Num.le 0 (.real value) = true) :
    ∃ count : Nat, (Num.real value).place? = some (.ofUnits count) := by
  obtain ⟨negative, rank, rfl⟩ := exists_of_isFinite finite
  have notBelow := (Num.le_iff_of_places Num.place?_zero (Num.place?_finite _ _)).mp notNegative
  obtain ⟨count, isCount⟩ := Int.eq_ofNat_of_zero_le (Num.Line.ofUnits_le_ofUnits.mp notBelow)
  exact ⟨count, isCount ▸ Num.place?_finite negative rank⟩

/-- A number of units at which a number stands is the one of its rank. -/
theorem exists_units_eq
    {value : Binary64}
    {count : Nat}
    (placed : (Num.real value).place? = some (.ofUnits count)) :
    ∃ rank : Fin finiteCount, units rank = count := by
  obtain ⟨negative, rank, -, isCount⟩ := Num.exists_finite_of_place placed
  refine ⟨rank, ?_⟩
  unfold signedUnits at isCount
  split at isCount
  · omega
  · omega

/-- The earliest end is rounded once. -/
theorem place?_earliest
    {start : Binary64}
    {low : Nat}
    (tenth : Fin finiteCount)
    (ofLow : (Num.real start).place? = some (.ofUnits low)) :
    (Num.real (start.add (.finite false tenth))).place? =
      some (.ofRank (nearestRank (low + units tenth) 1)) := by
  obtain ⟨negative, rank, rfl, isLow⟩ := Num.exists_finite_of_place ofLow
  refine Num.place?_add ?_
  rw [isLow]
  rfl

/-- The latest start is rounded once, to a finite number. -/
theorem place?_latest
    {stop : Binary64}
    {high : Nat}
    {tenth : Fin finiteCount}
    (ofHigh : (Num.real stop).place? = some (.ofUnits high))
    (long : units tenth ≤ high) :
    (Num.real (stop.sub (.finite false tenth))).place? =
      some (.ofUnits (units (nearestRank (high - units tenth) 1))) := by
  have inRange : nearestRank (high - units tenth) 1 < finiteCount := by
    obtain ⟨rank, rfl⟩ := exists_units_eq ofHigh
    exact Nat.lt_of_le_of_lt (nearestRank_le Nat.one_pos (by omega)) rank.isLt
  rw [← Num.Line.ofRank_of_lt inRange]
  obtain ⟨negative, rank, rfl, isHigh⟩ := Num.exists_finite_of_place ofHigh
  refine Num.place?_add ?_
  rw [isHigh, Int.ofNat_sub long]
  rfl

end Binary64

namespace Grip

open Binary64 Numeral

/-- The edge that is moved has not come to its limit. -/
def IsFree (settings : TimelineSettings) (origin moved : Track.Span) : Grip → Prop
  | .leftEdge =>
      ∃ latest, origin.stop.sub settings.shortest = .ok latest ∧ moved.start.lt latest = true
  | .rightEdge =>
      ∃ earliest, origin.start.add settings.shortest = .ok earliest ∧ earliest.lt moved.stop = true
  | .body => True

/--
What the texts of the times of a clip, whose edge is moved, show in hundredths.  They are a tenth apart
if the edge is free, and at least nine hundredths apart before the far time.
-/
structure Writes
    (grip : Grip)
    (settings : TimelineSettings)
    (origin : Track.Span)
    (startTime endTime : Binary64)
    (first second : Nat) : Prop where
  start : hundredths? (startTime.fixedText 2) = some first
  stop : hundredths? (endTime.fixedText 2) = some second
  short_iff : second < first + 10 ↔ startTime.IsPartedFrom endTime
  free :
    grip.IsFree settings origin { start := .real startTime, stop := .real endTime } →
      first + 10 ≤ second
  near : (Num.real endTime).lt (.real farTime) = true → first + 9 ≤ second

variable {settings : TimelineSettings} {origin : Track.Span} {startTime endTime : Binary64}
  {low high tenth : Nat}

/-- Times that stand more than a tenth apart where no limit holds them, and nearly a tenth apart
anyway, are written as they should be. -/
theorem writes_of_places
    {grip : Grip}
    (ofStart : (Num.real startTime).place? = some (.ofUnits low))
    (ofStop : (Num.real endTime).place? = some (.ofUnits high))
    (isTenth : unitsPerOne ≤ 10 * tenth)
    (free :
      grip.IsFree settings origin { start := .real startTime, stop := .real endTime } →
        low + tenth < high)
    (near : high < 2 ^ (53 + 1067) → low + tenth ≤ high + 2 ^ 1067) :
    grip.Writes settings origin startTime endTime (roundHalfEven (low * 100) unitsPerOne)
      (roundHalfEven (high * 100) unitsPerOne) where
  start := hundredths?_of_place ofStart
  stop := hundredths?_of_place ofStop
  short_iff := (isPartedFrom_iff ofStart ofStop).symm
  free isFree := written_apart isTenth (free isFree)
  near early := by
    obtain ⟨far, isFar, farUnits⟩ := exists_farTime
    rw [isFar, Num.lt_iff_of_places ofStop (Num.place?_finite _ _), Num.Line.ofUnits_lt_ofUnits]
      at early
    exact written_near isTenth (near (farUnits ▸ Int.ofNat_lt.mp early))

variable {start stop : Binary64}

theorem eq_latest
    {latest : Num}
    (isDefault : settings.shortest = .real Track.shortestDuration)
    (isLatest : (Num.real stop).sub settings.shortest = .ok latest) :
    latest = .real (stop.sub Track.shortestDuration) := by
  rw [isDefault] at isLatest
  exact (Except.ok.inj isLatest).symm

theorem eq_earliest
    {earliest : Num}
    (isDefault : settings.shortest = .real Track.shortestDuration)
    (isEarliest : (Num.real start).add settings.shortest = .ok earliest) :
    earliest = .real (start.add Track.shortestDuration) := by
  rw [isDefault] at isEarliest
  exact (Except.ok.inj isEarliest).symm

/-- A start that is moved is written a tenth before the end unless it has come to its limit. -/
theorem writes_leftEdge
    (isDefault : settings.shortest = .real Track.shortestDuration)
    (ofStop : stop.isFinite = true)
    (long : (Num.real Track.shortestDuration).le (.real stop) = true)
    (clamps :
      Grip.leftEdge.Clamps settings { start := .real start, stop := .real stop }
        { start := .real startTime, stop := .real endTime }) :
    ∃ first second,
      Grip.leftEdge.Writes settings { start := .real start, stop := .real stop } startTime endTime
        first second := by
  obtain ⟨same, clamped⟩ := clamps
  obtain rfl : endTime = stop := Num.real.inj same
  obtain ⟨notNegative, latest, isLatest, early⟩ := clamped (by rw [isDefault]; exact long)
  obtain rfl := eq_latest isDefault isLatest
  have positive : Num.le 0 (.real Track.shortestDuration) = true := by
    decide +kernel
  obtain ⟨high, ofHigh⟩ := exists_place_of_notNegative ofStop (Num.le_of_le_of_le positive long)
  obtain ⟨tenth, ofTenth, isTenth⟩ := exists_tenth
  rw [ofTenth, Num.le_iff_of_places (Num.place?_finite _ _) ofHigh, Num.Line.ofUnits_le_ofUnits] at long
  have enough : units tenth ≤ high := Int.ofNat_le.mp long
  have ofLatest := place?_latest ofHigh enough
  rw [← ofTenth] at ofLatest
  obtain ⟨place, limit, ofStart, ofLimit, notAbove⟩ := Num.le_iff.mp early
  obtain rfl := Option.some.inj (ofLatest.symm.trans ofLimit)
  rw [Num.le_iff_of_places Num.place?_zero ofStart] at notNegative
  obtain ⟨between, rfl, notBelow, notAfter⟩ := Num.Line.exists_ofUnits_between notNegative notAbove
  obtain ⟨low, rfl⟩ := Int.eq_ofNat_of_zero_le notBelow
  obtain ⟨rank, isLow⟩ := exists_units_eq ofStart
  obtain ⟨free, near⟩ := bounds_of_latest ⟨rank, isLow⟩ enough (Int.ofNat_le.mp notAfter)
  refine ⟨_, _, writes_of_places ofStart ofHigh isTenth ?_ near⟩
  rintro ⟨latest, isLatest, before⟩
  obtain rfl := eq_latest isDefault isLatest
  rw [Num.lt_iff_of_places ofStart ofLatest, Num.Line.ofUnits_lt_ofUnits] at before
  exact free (Int.ofNat_lt.mp before)

/-- An end that is moved is written a tenth after the start unless it has come to its limit. -/
theorem writes_rightEdge
    (isDefault : settings.shortest = .real Track.shortestDuration)
    (ofLow : (Num.real start).place? = some (.ofUnits low))
    (clamps :
      Grip.rightEdge.Clamps settings { start := .real start, stop := .real stop }
        { start := .real startTime, stop := .real endTime })
    (finite : endTime ≠ .infinity false) :
    ∃ first second,
      Grip.rightEdge.Writes settings { start := .real start, stop := .real stop } startTime endTime
        first second := by
  obtain ⟨same, earliest, isEarliest, late⟩ := clamps
  obtain rfl : startTime = start := Num.real.inj same
  obtain rfl := eq_earliest isDefault isEarliest
  obtain ⟨tenth, ofTenth, isTenth⟩ := exists_tenth
  have ofEarliest := place?_earliest tenth ofLow
  rw [← ofTenth] at ofEarliest
  obtain ⟨limit, place, ofLimit, ofStop, notBelow⟩ := Num.le_iff.mp late
  obtain rfl := Option.some.inj (ofEarliest.symm.trans ofLimit)
  have notTop : place ≠ ⊤ := fun isTop => finite (Num.eq_infinity_of_place (isTop ▸ ofStop))
  obtain ⟨high, rfl, inRange, notBefore⟩ := Num.Line.exists_of_ofRank_le notBelow notTop
  rw [Num.Line.ofRank_of_lt inRange] at ofEarliest
  obtain ⟨rank, isHigh⟩ := exists_units_eq ofStop
  obtain ⟨free, near⟩ := bounds_of_earliest ⟨rank, isHigh⟩ notBefore
  refine ⟨_, _, writes_of_places ofLow ofStop isTenth ?_ near⟩
  rintro ⟨earliest, isEarliest, after⟩
  obtain rfl := eq_earliest isDefault isEarliest
  rw [Num.lt_iff_of_places ofEarliest ofStop, Num.Line.ofUnits_lt_ofUnits] at after
  exact free (Int.ofNat_lt.mp after)

/-- A clip that is long enough does not end before the shortest duration. -/
theorem shortest_le_stop
    (ofLow : (Num.real start).place? = some (.ofUnits low))
    (long : (Num.real (start.add Track.shortestDuration)).le (.real stop) = true) :
    (Num.real Track.shortestDuration).le (.real stop) = true := by
  obtain ⟨tenth, ofTenth, -⟩ := exists_tenth
  rw [ofTenth] at long ⊢
  obtain ⟨earliest, limit, ofEarliest, ofStop, notAbove⟩ := Num.le_iff.mp long
  obtain rfl := Option.some.inj ((place?_earliest tenth ofLow).symm.trans ofEarliest)
  rw [Num.le_iff_of_places (Num.place?_finite _ _) ofStop]
  have notBelow : tenth ≤ nearestRank (low + units tenth) 1 := le_nearestRank Nat.one_pos (by omega)
  refine le_trans ?_ notAbove
  have onLine : Num.Line.ofRank tenth = .ofUnits (signedUnits false tenth) :=
    Num.Line.ofRank_of_lt tenth.isLt
  rw [← onLine]
  exact Num.Line.ofRank_le_ofRank notBelow

/-- The start is written as a decimal, and the end too unless it is pulled beyond all numbers. -/
def IsWritten
    (grip : Grip)
    (settings : TimelineSettings)
    (origin : Track.Span)
    (startTime endTime : Binary64) : Prop :=
  ∃ first : Nat, hundredths? (startTime.fixedText 2) = some (first : Int) ∧
    (grip = .rightEdge ∧ endTime = .infinity false ∧ hundredths? (endTime.fixedText 2) = none ∨
      ∃ second, grip.Writes settings origin startTime endTime first second)

/-- The times of a clip that is long enough, and whose edge is moved, are written as decimals. -/
theorem Clamps.isWritten
    {grip : Grip}
    (resizes : grip ≠ .body)
    (isDefault : settings.shortest = .real Track.shortestDuration)
    (ofStart : start.isFinite = true)
    (ofStop : stop.isFinite = true)
    (notNegative : Num.le 0 (.real start) = true)
    (long : (Num.real (start.add Track.shortestDuration)).le (.real stop) = true)
    (clamps :
      grip.Clamps settings { start := .real start, stop := .real stop }
        { start := .real startTime, stop := .real endTime }) :
    grip.IsWritten settings { start := .real start, stop := .real stop } startTime endTime := by
  obtain ⟨low, ofLow⟩ := exists_place_of_notNegative ofStart notNegative
  have enough := shortest_le_stop ofLow long
  cases grip with
  | body =>
      exact absurd rfl resizes
  | leftEdge =>
      obtain ⟨first, second, writes⟩ := writes_leftEdge isDefault ofStop enough clamps
      exact ⟨first, writes.start, Or.inr ⟨second, writes⟩⟩
  | rightEdge =>
      by_cases infinite : endTime = .infinity false
      · obtain rfl : startTime = start := Num.real.inj clamps.1
        exact ⟨_, hundredths?_of_place ofLow, Or.inl ⟨rfl, infinite, infinite ▸ hundredths?_infinity _⟩⟩
      · obtain ⟨first, second, writes⟩ := writes_rightEdge isDefault ofLow clamps infinite
        exact ⟨first, writes.start, Or.inr ⟨second, writes⟩⟩

end Grip

end SceneEditor
