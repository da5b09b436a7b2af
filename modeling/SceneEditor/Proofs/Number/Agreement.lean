import Mathlib.Algebra.Group.Nat.Defs
import SceneEditor.Number.Num

namespace SceneEditor

/-!
# Numbers that agree

Two numbers agree if they are equal or if neither is a number.  Whichever kinds the two are of, they
agree exactly if they have the same mark, so that agreement is an equivalence.
-/

theorem unitsPerOne_pos : 0 < unitsPerOne := by
  decide +kernel

namespace Binary64

/-- The first positive numbers are one unit apart. -/
theorem units_of_lt
    {rank : Nat}
    (small : rank < 2 ^ 53) :
    units rank = rank :=
  if_pos small

/-- A larger number is a significand times a power of two. -/
theorem units_of_le
    {rank : Nat}
    (large : 2 ^ 53 ≤ rank) :
    units rank = (2 ^ 52 + rank % 2 ^ 52) * 2 ^ (rank / 2 ^ 52 - 1) :=
  if_neg (Nat.not_lt_of_le large)

/-- The finite numbers are an increasing sequence. -/
theorem units_lt_succ (rank : Nat) :
    units rank < units (rank + 1) := by
  by_cases small : rank + 1 < 2 ^ 53
  · have rankSmall : rank < 2 ^ 53 := Nat.lt_of_succ_lt small
    rw [units_of_lt small, units_of_lt rankSmall]
    exact Nat.lt_succ_self rank
  · have succLarge : 2 ^ 53 ≤ rank + 1 := Nat.le_of_not_lt small
    rcases Nat.eq_or_lt_of_le succLarge with boundary | large
    · have rankEq : rank = 2 ^ 53 - 1 := by omega
      subst rankEq
      decide
    · have rankLarge : 2 ^ 53 ≤ rank := Nat.le_of_lt_succ large
      rw [units_of_le succLarge, units_of_le rankLarge]
      have positive : 1 ≤ rank / 2 ^ 52 := by omega
      by_cases carries : rank % 2 ^ 52 + 1 = 2 ^ 52
      · -- the significand runs over, so the next number is the next power of two
        have nextDiv : (rank + 1) / 2 ^ 52 - 1 = rank / 2 ^ 52 - 1 + 1 := by omega
        have nextMod : (rank + 1) % 2 ^ 52 = 0 := by omega
        have doubled (exponent : Nat) : 2 ^ 52 * 2 ^ (exponent + 1) = 2 ^ 53 * 2 ^ exponent := by
          have power : 2 ^ 53 = 2 ^ 52 * 2 := by decide
          rw [Nat.pow_succ' (n := exponent), ← Nat.mul_assoc, power]
        rw [nextDiv, nextMod, Nat.add_zero, doubled]
        exact Nat.mul_lt_mul_of_pos_right (by omega) (Nat.two_pow_pos _)
      · have sameDiv : (rank + 1) / 2 ^ 52 = rank / 2 ^ 52 := by omega
        have nextMod : (rank + 1) % 2 ^ 52 = rank % 2 ^ 52 + 1 := by omega
        rw [sameDiv, nextMod]
        exact Nat.mul_lt_mul_of_pos_right (by omega) (Nat.two_pow_pos _)

/-- A later rank is a larger number. -/
theorem units_lt
    {first second : Nat}
    (before : first < second) :
    units first < units second := by
  induction second with
  | zero =>
      exact absurd before (Nat.not_lt_zero first)
  | succ second inductionHypothesis =>
      rcases Nat.eq_or_lt_of_le (Nat.le_of_lt_succ before) with same | earlier
      · rw [same]
        exact units_lt_succ second
      · exact Nat.lt_trans (inductionHypothesis earlier) (units_lt_succ second)

theorem position?_zero :
    (0 : Binary64).position? = some 0 := by
  decide +kernel

theorem units_finiteCount_pos :
    0 < units finiteCount :=
  Nat.lt_of_le_of_lt (Nat.zero_le (units 0)) (units_lt (by decide))

/-- An infinity stands where no finite number does. -/
theorem signedUnits_ne_infinity
    (sign negative : Bool)
    (rank : Fin finiteCount) :
    signedUnits sign rank ≠ signedUnits negative finiteCount := by
  have below : units rank < units finiteCount := units_lt rank.isLt
  unfold signedUnits
  split <;> split <;> omega

/-- The infinities differ in their sign only. -/
theorem signedUnits_infinity_inj
    {first second : Bool} :
    signedUnits first finiteCount = signedUnits second finiteCount ↔ first = second := by
  have positive := units_finiteCount_pos
  constructor
  · intro same
    cases first <;> cases second
    · rfl
    · simp only [signedUnits, if_true, Bool.false_eq_true, if_false] at same
      omega
    · simp only [signedUnits, if_true, Bool.false_eq_true, if_false] at same
      omega
    · rfl
  · rintro rfl
    rfl

end Binary64

namespace Num

/-- What two numbers that agree have in common; finite numbers are told by their units. -/
inductive Mark where
  | undefined
  | infinite (negative : Bool)
  | finite (units : Int)
  deriving DecidableEq, Repr

/-- The mark of a number. -/
def mark : Num → Mark
  | int value => .finite (value * unitsPerOne)
  | real .nan => .undefined
  | real (.infinity negative) => .infinite negative
  | real (.finite negative rank) => .finite (Binary64.signedUnits negative rank)

theorem unitsPerOne_ne_zero :
    (unitsPerOne : Int) ≠ 0 := by
  decide +kernel

/-- Real numbers agree exactly if their marks are equal. -/
theorem real_agrees_iff
    {left right : Binary64} :
    (real left).agrees (real right) = true ↔ (real left).mark = (real right).mark := by
  rcases left with _ | s | ⟨s, a⟩ <;> rcases right with _ | t | ⟨t, b⟩
  all_goals
    simp [agrees, equals, isNan, mark, Binary64.equals, Binary64.isNan, Binary64.position?,
      Binary64.signedUnits_infinity_inj, Binary64.signedUnits_ne_infinity,
      Ne.symm (Binary64.signedUnits_ne_infinity _ _ _)]

/-- Integers agree exactly if they are equal. -/
theorem int_agrees_int_iff
    {left right : Int} :
    (int left).agrees (int right) = true ↔ left = right := by
  simp [agrees, equals, isNan]

theorem int_agrees_real_iff
    {left : Int}
    {right : Binary64} :
    (int left).agrees (real right) = true ↔ (int left).mark = (real right).mark := by
  cases right with
  | finite negative rank =>
      simp only [agrees, equals, isNan, mark, Bool.false_and, Bool.or_false, decide_eq_true_eq,
        Mark.finite.injEq]
  | _ =>
      simp only [agrees, equals, isNan, mark, Bool.false_and, Bool.or_false, Bool.false_eq_true,
        reduceCtorEq]

theorem real_agrees_int_iff
    {left : Binary64}
    {right : Int} :
    (real left).agrees (int right) = true ↔ (real left).mark = (int right).mark := by
  cases left with
  | finite negative rank =>
      simp only [agrees, equals, isNan, mark, Bool.and_false, Bool.or_false, decide_eq_true_eq,
        Mark.finite.injEq]
  | _ =>
      simp only [agrees, equals, isNan, mark, Bool.and_false, Bool.or_false, Bool.false_eq_true,
        reduceCtorEq]

/-- Numbers agree exactly if they have the same mark. -/
theorem agrees_iff
    {left right : Num} :
    left.agrees right = true ↔ left.mark = right.mark := by
  cases left with
  | int l =>
      cases right with
      | int r =>
          rw [int_agrees_int_iff, mark, mark, Mark.finite.injEq]
          constructor
          · rintro rfl
            rfl
          · exact Int.eq_of_mul_eq_mul_right unitsPerOne_ne_zero
      | real r =>
          exact int_agrees_real_iff
  | real l =>
      cases right with
      | int r =>
          exact real_agrees_int_iff
      | real r =>
          exact real_agrees_iff

theorem agrees_refl (number : Num) :
    number.agrees number = true :=
  agrees_iff.mpr rfl

theorem agrees_symm
    {left right : Num}
    (agree : left.agrees right = true) :
    right.agrees left = true :=
  agrees_iff.mpr (agrees_iff.mp agree).symm

theorem agrees_trans
    {left middle right : Num}
    (first : left.agrees middle = true)
    (second : middle.agrees right = true) :
    left.agrees right = true :=
  agrees_iff.mpr ((agrees_iff.mp first).trans (agrees_iff.mp second))

end Num

/-- Floating-point numbers agree as numbers of either kind do. -/
theorem Binary64.agrees_iff
    {left right : Binary64} :
    left.agrees right = true ↔ (Num.real left).agrees (Num.real right) = true := by
  rcases left with _ | s | ⟨s, a⟩ <;> rcases right with _ | t | ⟨t, b⟩
  all_goals
    simp [Binary64.agrees, Num.agrees, Num.equals, Num.isNan, Binary64.equals, Binary64.isNan,
      Binary64.position?]

end SceneEditor
