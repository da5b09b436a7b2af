import Mathlib.Algebra.Order.Ring.Int
import SceneEditor.Proofs.Number.Nearest
import SceneEditor.Timeline.Settings

namespace SceneEditor

/-!
# Settings that pass their check

The settings are made of numbers of either kind.  The check rounds the span and the gutter, and only
compares the shortest duration with others; still no number that has passed is too large to be rounded.
-/

open Attempt

namespace Binary64

theorem signedUnits_le
    (negative : Bool)
    (rank : Nat) :
    signedUnits negative rank ≤ units rank := by
  unfold signedUnits
  split
  · omega
  · exact Int.le_refl _

/-- The finite numbers are below the middle from which on integers are too large. -/
theorem units_lt_middle
    {rank : Nat}
    (finite : rank < finiteCount) :
    units rank < (2 ^ 54 - 1) * 2 ^ 970 * unitsPerOne := by
  have notAbove : units rank ≤ units (finiteCount - 1) := by
    rcases Nat.eq_or_lt_of_le (Nat.le_pred_of_lt finite) with same | below
    · rw [same]
      exact Nat.le_refl _
    · exact Nat.le_of_lt (units_lt below)
  have largest : units (finiteCount - 1) < (2 ^ 54 - 1) * 2 ^ 970 * unitsPerOne := by
    decide +kernel
  exact Nat.lt_of_le_of_lt notAbove largest

end Binary64

/-- A positive integer below a finite number can be rounded. -/
theorem Num.succeeds_of_lt
    {value : Int}
    {limit : Num}
    (positive : 0 < value)
    (ofLimit : Succeeds limit.toReal)
    (finite : ∀ real, limit = .real real → real.isFinite = true)
    (below : (Num.int value).lt limit = true) :
    Succeeds (Num.int value).toReal := by
  rw [succeeds_int_iff]
  cases limit with
  | int limit =>
      have below : value < limit := of_decide_eq_true below
      have small := succeeds_int_iff.mp ofLimit
      omega
  | real limit =>
      cases limit with
      | nan | infinity =>
          exact absurd (finite _ rfl) (by simp [Binary64.isFinite])
      | finite negative rank =>
          have below : value * unitsPerOne < Binary64.signedUnits negative rank :=
            of_decide_eq_true below
          obtain ⟨count, rfl⟩ := Int.eq_ofNat_of_zero_le (Int.le_of_lt positive)
          have inUnits : count * unitsPerOne < (2 ^ 54 - 1) * 2 ^ 970 * unitsPerOne := by
            have notAbove := Binary64.signedUnits_le negative rank
            have notBeyond := Binary64.units_lt_middle rank.isLt
            have below : ((count * unitsPerOne : Nat) : Int) < Binary64.units rank := by
              push_cast
              exact Int.lt_of_lt_of_le below notAbove
            exact Nat.lt_trans (Int.ofNat_lt.mp below) notBeyond
          exact Nat.lt_of_mul_lt_mul_right inUnits

/-- An integer at a positive number or above it is positive. -/
theorem Num.pos_of_le
    {least : Binary64}
    {value : Int}
    (positive : Binary64.lt 0 least = true)
    (notBelow : (Num.real least).le (.int value) = true) :
    0 < value := by
  rw [Binary64.lt, Binary64.position?_zero] at positive
  cases least with
  | nan =>
      exact absurd positive (by simp [Binary64.position?])
  | infinity negative =>
      have minus : negative = true := by
        simpa [Num.le, Num.lt, Num.equals] using notBelow
      rw [minus] at positive
      have below := Binary64.units_finiteCount_pos
      simp only [Binary64.position?, Binary64.signedUnits, if_true, decide_eq_true_eq] at positive
      omega
  | finite negative rank =>
      have positive : 0 < Binary64.signedUnits negative rank :=
        of_decide_eq_true positive
      have notBelow : Binary64.signedUnits negative rank ≤ value * unitsPerOne := by
        change (decide (Binary64.signedUnits negative rank < value * (unitsPerOne : Int)) ||
          decide (Binary64.signedUnits negative rank = value * (unitsPerOne : Int))) = true
          at notBelow
        rw [Bool.or_eq_true, decide_eq_true_eq, decide_eq_true_eq] at notBelow
        exact Int.le_iff_lt_or_eq.mpr notBelow
      have scaled : 0 < value * unitsPerOne := Int.lt_of_lt_of_le positive notBelow
      exact pos_of_mul_pos_left scaled (Int.natCast_nonneg unitsPerOne)

namespace TimelineSettings

/-- The settings hold no integer that is too large, and no negative gutter. -/
structure IsComputable (settings : TimelineSettings) : Prop where
  maxTime : Succeeds settings.maxTime.toReal
  gutter : Succeeds settings.gutter.toReal
  notNegative : settings.gutter.lt 0 = false
  shortest : Succeeds settings.shortest.toReal

/-- What the check has found of the settings that it accepts. -/
structure Passes (settings : TimelineSettings) : Prop where
  maxTime : isFinite settings.maxTime = .ok true
  positive : settings.maxTime.le 0 = false
  gutter : isFinite settings.gutter = .ok true
  notNegative : settings.gutter.lt 0 = false
  long : (Num.real Track.shortestDuration).le settings.shortest = true
  below : settings.shortest.lt settings.maxTime = true

theorem eq_ok_of_mapError
    {step : Except ε α}
    {change : ε → φ}
    {result : α}
    (isOk : step.mapError change = .ok result) :
    step = .ok result := by
  cases step with
  | error =>
      exact nomatch isOk
  | ok =>
      exact congrArg Except.ok (Except.ok.inj isOk)

/-- Settings that are accepted pass, and are not changed. -/
theorem passes_of_check
    {settings checked : TimelineSettings}
    (accepted : settings.check = .ok checked) :
    checked = settings ∧ settings.Passes := by
  unfold TimelineSettings.check at accepted
  obtain ⟨finiteTime, isFiniteTime, accepted⟩ := bind_eq_ok_iff.mp accepted
  dsimp only at accepted
  split at accepted
  · obtain ⟨_, fails, -⟩ := bind_eq_ok_iff.mp accepted
    exact nomatch fails
  · next soundTime =>
    obtain ⟨finiteGutter, isFiniteGutter, accepted⟩ := bind_eq_ok_iff.mp accepted
    split at accepted
    · obtain ⟨_, fails, -⟩ := bind_eq_ok_iff.mp accepted
      exact nomatch fails
    · next soundGutter =>
      split at accepted
      · next soundShortest =>
        simp only [Bool.or_eq_true, Bool.not_eq_true', not_or, Bool.not_eq_false, Bool.not_eq_true]
          at soundTime soundGutter
        obtain ⟨rfl, positive⟩ := soundTime
        obtain ⟨rfl, notNegative⟩ := soundGutter
        obtain ⟨long, below⟩ := Bool.and_eq_true_iff.mp soundShortest
        exact ⟨(Except.ok.inj accepted).symm, {
          maxTime := eq_ok_of_mapError isFiniteTime
          positive
          gutter := eq_ok_of_mapError isFiniteGutter
          notNegative
          long
          below
        }⟩
      · exact nomatch accepted

theorem exists_real_of_isFinite
    {number : Num}
    (finite : isFinite number = .ok true) :
    ∃ real, number.toReal = .ok real ∧ real.isFinite = true := by
  obtain ⟨real, isReal, isFinite⟩ := bind_eq_ok_iff.mp finite
  exact ⟨real, isReal, Except.ok.inj isFinite⟩

/-- Settings that pass can be computed with. -/
theorem Passes.isComputable
    {settings : TimelineSettings}
    (passes : settings.Passes) :
    settings.IsComputable := by
  obtain ⟨time, isTime, finite⟩ := exists_real_of_isFinite passes.maxTime
  obtain ⟨gutter, isGutter, -⟩ := exists_real_of_isFinite passes.gutter
  refine ⟨⟨time, isTime⟩, ⟨gutter, isGutter⟩, passes.notNegative, ?_⟩
  cases isShortest : settings.shortest with
  | real value =>
      exact succeeds_ok value
  | int value =>
      have below := passes.below
      rw [isShortest] at below
      refine Num.succeeds_of_lt ?_ ⟨time, isTime⟩ ?_ below
      · have long := passes.long
        rw [isShortest] at long
        exact Num.pos_of_le (by decide +kernel) long
      · intro real isReal
        rw [isReal] at isTime
        rw [Except.ok.inj isTime]
        exact finite

/-!
## The settings as floating-point numbers
-/

open Binary64

/-- What is checked to be finite stands between the two ends. -/
theorem place?_of_isFinite
    {number : Num}
    (finite : isFinite number = .ok true) :
    ∃ units, number.place? = some (.ofUnits units) := by
  obtain ⟨real, isReal, isFinite⟩ := exists_real_of_isFinite finite
  cases number with
  | int value =>
      exact ⟨_, rfl⟩
  | real value =>
      obtain rfl := Except.ok.inj isReal
      obtain ⟨negative, rank, rfl⟩ := exists_of_isFinite isFinite
      exact ⟨_, rfl⟩

variable {settings : TimelineSettings}

/-- The last time stands above zero. -/
theorem Passes.place?_maxTime (passes : settings.Passes) :
    ∃ units, settings.maxTime.place? = some (.ofUnits units) ∧ 0 < units := by
  obtain ⟨units, placed⟩ := place?_of_isFinite passes.maxTime
  refine ⟨units, placed, Int.not_le.mp fun notPositive => ?_⟩
  have notAbove := (Num.le_iff_of_places placed Num.place?_zero).mpr
    (Num.Line.ofUnits_le_ofUnits.mpr notPositive)
  exact Bool.false_ne_true (passes.positive.symm.trans notAbove)

theorem Passes.place?_gutter (passes : settings.Passes) :
    ∃ units, settings.gutter.place? = some (.ofUnits units) ∧ 0 ≤ units := by
  obtain ⟨units, placed⟩ := place?_of_isFinite passes.gutter
  refine ⟨units, placed, Int.not_lt.mp fun negative => ?_⟩
  have below := (Num.lt_iff_of_places placed Num.place?_zero).mpr
    (Num.Line.ofUnits_lt_ofUnits.mpr negative)
  exact Bool.false_ne_true (passes.notNegative.symm.trans below)

theorem Passes.place?_shortest (passes : settings.Passes) :
    ∃ units, settings.shortest.place? = some (.ofUnits units) ∧ 0 ≤ units := by
  have notNegative : Num.le 0 (.real Track.shortestDuration) = true := by
    decide +kernel
  obtain ⟨place, limit, placed, -, below⟩ := Num.lt_iff.mp passes.below
  have zeroLe := Num.le_of_le_of_le notNegative passes.long
  rw [Num.le_iff_of_places Num.place?_zero placed] at zeroLe
  obtain ⟨units, rfl, notBelow⟩ := Num.Line.exists_ofUnits zeroLe below
  exact ⟨units, placed, notBelow⟩

/-- The span of the track is rounded to a positive number. -/
theorem Passes.exists_span (passes : settings.Passes) :
    ∃ rank : Fin finiteCount,
      settings.maxTime.toReal = .ok (.finite false rank) ∧ (rank : Nat) ≠ 0 := by
  obtain ⟨real, ofMaxTime, -⟩ := exists_real_of_isFinite passes.maxTime
  obtain ⟨units, placed, positive⟩ := passes.place?_maxTime
  obtain ⟨sign, rank, rfl, sides⟩ :=
    Num.exists_finite_of_toReal ofMaxTime placed (Int.le_of_lt positive)
  have atLeast : 1 ≤ signedUnits sign rank := (sides false ⟨1, by decide⟩).2 positive
  cases sign with
  | true =>
      simp only [signedUnits, if_true] at atLeast
      omega
  | false =>
      refine ⟨rank, ofMaxTime, fun isZero => ?_⟩
      rw [isZero] at atLeast
      exact absurd atLeast (by decide)

theorem Passes.exists_gutter (passes : settings.Passes) :
    ∃ sign rank, settings.gutter.toReal = .ok (.finite sign rank) ∧ 0 ≤ signedUnits sign rank := by
  obtain ⟨real, ofGutter, -⟩ := exists_real_of_isFinite passes.gutter
  obtain ⟨units, placed, notNegative⟩ := passes.place?_gutter
  obtain ⟨sign, rank, rfl, sides⟩ := Num.exists_finite_of_toReal ofGutter placed notNegative
  exact ⟨sign, rank, ofGutter, (sides false ⟨0, by decide⟩).2 notNegative⟩

/-- The shortest duration is rounded to a finite number, and not beyond a time that it is not above. -/
theorem Passes.exists_shortest (passes : settings.Passes) :
    ∃ sign rank,
      settings.shortest.toReal = .ok (.finite sign rank) ∧
        ∀ negative time,
          settings.shortest.le (.real (.finite negative time)) = true →
            signedUnits sign rank ≤ signedUnits negative time := by
  obtain ⟨real, ofShortest⟩ := passes.isComputable.shortest
  obtain ⟨units, placed, notNegative⟩ := passes.place?_shortest
  obtain ⟨sign, rank, rfl, sides⟩ :=
    Num.exists_finite_of_toReal ofShortest placed notNegative
  refine ⟨sign, rank, ofShortest, fun negative time notAbove => (sides negative time).1 ?_⟩
  exact Num.Line.ofUnits_le_ofUnits.mp
    ((Num.le_iff_of_places placed (Num.place?_finite negative time)).mp notAbove)

end TimelineSettings

end SceneEditor
