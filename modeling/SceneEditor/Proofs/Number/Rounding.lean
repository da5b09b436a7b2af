import Mathlib.Algebra.Group.Nat.Defs
import Mathlib.Tactic.Ring
import SceneEditor.Number.Num
import SceneEditor.Proofs.Outcome

namespace SceneEditor

/-!
# Integers that can be rounded

Rounding an integer to a floating-point number keeps its size but for the last bit of the significand.
So an integer that has one bit less than the largest finite number is rounded to a finite one.  Exactly
the integers from the middle between the largest finite number and the next one of its kind on are
rounded to an infinity.

All of it rests on quotients that are rounded to the nearest integer: those beyond the middle after an
integer are rounded beyond it, and the middle itself is rounded to the even neighbour.
-/

theorem roundHalfEven_zero (den : Nat) :
    roundHalfEven 0 den = 0 := by
  simp [roundHalfEven]

/-- Rounding does not go below the whole part. -/
theorem le_roundHalfEven (num den : Nat) :
    num / den ≤ roundHalfEven num den := by
  unfold roundHalfEven
  dsimp only
  split
  · exact Nat.le_refl _
  split
  · exact Nat.le_succ _
  split
  · exact Nat.le_refl _
  · exact Nat.le_succ _

/-- Rounding a quotient adds at most one to its floor. -/
theorem roundHalfEven_le (num den : Nat) :
    roundHalfEven num den ≤ num / den + 1 := by
  unfold roundHalfEven
  dsimp only
  split
  · exact Nat.le_succ _
  split
  · exact Nat.le_refl _
  split
  · exact Nat.le_succ _
  · exact Nat.le_refl _

/--
A quotient is beyond the middle between a number and the next one; the middle itself counts if the
number is odd, since it is rounded to the even neighbour.
-/
def IsBeyondMiddle (floor num den : Nat) : Prop :=
  (2 * floor + 1) * den < 2 * num ∨ (2 * floor + 1) * den = 2 * num ∧ floor % 2 = 1

/-- Rounding goes beyond a number exactly if the quotient is beyond the middle after it. -/
theorem lt_roundHalfEven_iff
    (floor num : Nat)
    {den : Nat}
    (positive : 0 < den) :
    floor < roundHalfEven num den ↔ IsBeyondMiddle floor num den := by
  have split : den * (num / den) + num % den = num := Nat.div_add_mod num den
  have small : num % den < den := Nat.mod_lt num positive
  have middle : (2 * floor + 1) * den = 2 * (den * floor) + den := by ring
  have lower := le_roundHalfEven num den
  have upper := roundHalfEven_le num den
  rw [IsBeyondMiddle, middle]
  rcases Nat.lt_trichotomy (num / den) floor with below | same | above
  · have bound : den * (num / den) + den ≤ den * floor := by
      rw [← Nat.mul_succ]
      exact Nat.mul_le_mul_left _ below
    constructor
    · omega
    · omega
  · -- here the rest decides, and at the middle that the number is odd
    rw [roundHalfEven, same]
    rw [same] at split
    generalize num % den = rest at split small ⊢
    split
    · omega
    · split
      · omega
      · split
        · omega
        · omega
  · have bound : den * floor + den ≤ den * (num / den) := by
      rw [← Nat.mul_succ]
      exact Nat.mul_le_mul_left _ above
    constructor
    · omega
    · omega

/-- What is rounded lower is not beyond some middle that the other quotient is beyond. -/
theorem roundHalfEven_lt_iff
    (first second : Nat)
    {den : Nat}
    (positive : 0 < den) :
    roundHalfEven first den < roundHalfEven second den ↔
      ∃ floor, IsBeyondMiddle floor second den ∧ ¬IsBeyondMiddle floor first den := by
  simp only [← lt_roundHalfEven_iff _ _ positive, Nat.not_lt]
  constructor
  · exact fun below => ⟨_, below, Nat.le_refl _⟩
  · exact fun ⟨_, beyond, notBeyond⟩ => Nat.lt_of_le_of_lt notBeyond beyond

/-- Quotients that are more than a whole number apart are rounded at least that number apart. -/
theorem roundHalfEven_add_le
    {first second count den : Nat}
    (positive : 0 < den)
    (apart : first + count * den < second) :
    roundHalfEven first den + count ≤ roundHalfEven second den := by
  by_contra near
  have notBeyond := mt (lt_roundHalfEven_iff _ second positive).mpr (Nat.lt_irrefl _)
  generalize roundHalfEven second den = floor at near notBeyond
  unfold IsBeyondMiddle at notBeyond
  rcases Nat.lt_or_ge floor count with few | many
  · have bound : (2 * floor + 1) * den ≤ 2 * count * den := Nat.mul_le_mul_right den (by omega)
    rw [Nat.mul_assoc] at bound
    omega
  · obtain ⟨rest, rfl⟩ := Nat.exists_eq_add_of_le many
    have beyond := (lt_roundHalfEven_iff rest first positive).mp (by omega)
    unfold IsBeyondMiddle at beyond
    have middle : (2 * (count + rest) + 1) * den = (2 * rest + 1) * den + 2 * (count * den) := by
      ring
    omega

/-- A whole even number can be added before rounding or after it. -/
theorem roundHalfEven_add_mul
    {count : Nat}
    (even : count % 2 = 0)
    (num : Nat)
    {den : Nat}
    (positive : 0 < den) :
    roundHalfEven (num + count * den) den = roundHalfEven num den + count := by
  unfold roundHalfEven
  rw [Nat.add_mul_div_right num count positive, Nat.add_mul_mod_self_right]
  have parity : (num / den + count) % 2 = num / den % 2 := by omega
  simp only [parity]
  split
  · rfl
  · split
    · omega
    · split
      · rfl
      · omega

/-- A number that is shifted by all its bits but the first 53 has no more than these. -/
theorem div_shift_lt (num : Nat) :
    num / 2 ^ (num.log2 - 52) < 2 ^ 53 := by
  rw [Nat.div_lt_iff_lt_mul (Nat.two_pow_pos _), ← Nat.pow_add]
  calc num
      < 2 ^ (num.log2 + 1) := Nat.lt_log2_self
    _ ≤ 2 ^ (53 + (num.log2 - 52)) := Nat.pow_le_pow_right (by decide) (by omega)

/-- A number is shifted by no more bits than it has beyond 53. -/
theorem shift_le
    {num bits : Nat}
    (small : num < 2 ^ (53 + bits)) :
    num.log2 - 52 ≤ bits := by
  by_cases none : num = 0
  · rw [none, Nat.log2_zero]
    omega
  · have log := (Nat.log2_lt none).mpr small
    omega

/--
The rank of a number of units stays below that of a power of two exactly if the number stays below the
middle between the last number of 53 bits in front of the power and the power itself.
-/
theorem rank_lt_iff (num exponent : Nat) :
    (num.log2 - 52) * 2 ^ 52 + roundHalfEven num (2 ^ (num.log2 - 52)) <
        (exponent + 3) * 2 ^ 52 ↔
      num < (2 ^ 54 - 1) * 2 ^ exponent := by
  have positive : 0 < 2 ^ exponent := Nat.two_pow_pos exponent
  have scaled (bits : Nat) : 2 ^ (bits + exponent) = 2 ^ bits * 2 ^ exponent := Nat.pow_add ..
  by_cases small : num < 2 ^ (53 + exponent)
  · have shift : num.log2 - 52 ≤ exponent := shift_le small
    have rounded : roundHalfEven num (2 ^ (num.log2 - 52)) ≤ 2 ^ 53 :=
      Nat.le_trans (roundHalfEven_le _ _) (div_shift_lt num)
    rw [scaled] at small
    constructor
    · omega
    · omega
  · have notSmall : 2 ^ (53 + exponent) ≤ num := Nat.le_of_not_lt small
    have notZero : num ≠ 0 := by
      have := Nat.two_pow_pos (53 + exponent)
      omega
    by_cases middle : num < 2 ^ (54 + exponent)
    · have log : num.log2 = 53 + exponent := by
        have upper := (Nat.log2_lt notZero).mpr middle
        have lower := (Nat.le_log2 notZero).mpr notSmall
        omega
      have shift : num.log2 - 52 = exponent + 1 := by omega
      have beyond := lt_roundHalfEven_iff (2 ^ 53 - 1) num (Nat.two_pow_pos (exponent + 1))
      rw [IsBeyondMiddle, Nat.pow_succ' (n := exponent)] at beyond
      rw [shift, Nat.pow_succ' (n := exponent)]
      omega
    · have notMiddle : 2 ^ (54 + exponent) ≤ num := Nat.le_of_not_lt middle
      have lower := (Nat.le_log2 notZero).mpr notMiddle
      have floor : 2 ^ 52 ≤ num / 2 ^ (num.log2 - 52) := by
        rw [Nat.le_div_iff_mul_le (Nat.two_pow_pos _), ← Nat.pow_add]
        have : 52 + (num.log2 - 52) = num.log2 := by omega
        rw [this]
        exact Nat.log2_self_le notZero
      have rounded := Nat.le_trans floor (le_roundHalfEven num (2 ^ (num.log2 - 52)))
      rw [scaled] at notMiddle
      constructor
      · omega
      · omega

namespace Binary64

/-- How many bits the units of a number may have to be surely rounded to a finite number. -/
def safeBits : Nat := 2097

/-- A quotient of few bits is rounded to a finite number. -/
theorem nearest_isFinite
    {num den bits : Nat}
    (few : bits ≤ safeBits)
    (small : num / den < 2 ^ bits)
    (negative : Bool) :
    (nearest negative num den).isFinite = true := by
  have log : (num / den).log2 ≤ 2096 := by
    by_cases none : num / den = 0
    · rw [none]
      decide
    · have below := (Nat.log2_lt none).mpr small
      rw [safeBits] at few
      omega
  have significand : num / (den * Nat.pow 2 ((num / den).log2 - 52)) < 2 ^ 53 := by
    rw [← Nat.div_div_eq_div_mul]
    exact div_shift_lt (num / den)
  have rounded : roundHalfEven num (den * Nat.pow 2 ((num / den).log2 - 52)) ≤ 2 ^ 53 :=
    Nat.le_trans (roundHalfEven_le _ _) significand
  have bounded :
      ((num / den).log2 - 52) * Nat.pow 2 52 +
          roundHalfEven num (den * Nat.pow 2 ((num / den).log2 - 52)) <
        finiteCount := by
    have shifted : ((num / den).log2 - 52) * Nat.pow 2 52 ≤ 2044 * Nat.pow 2 52 :=
      Nat.mul_le_mul_right _ (by omega)
    calc ((num / den).log2 - 52) * Nat.pow 2 52 +
          roundHalfEven num (den * Nat.pow 2 ((num / den).log2 - 52))
        ≤ 2044 * Nat.pow 2 52 + 2 ^ 53 := Nat.add_le_add shifted rounded
      _ < finiteCount := by decide
  rw [nearest, dif_pos bounded]
  rfl

/-- How many bits the units of one have behind the first. -/
def unitBits : Nat := 1074

theorem scaled_lt
    {value bits : Nat}
    (small : value < 2 ^ bits) :
    value * unitsPerOne < 2 ^ (bits + unitBits) := by
  rw [Nat.pow_add]
  exact Nat.mul_lt_mul_of_pos_right small (Nat.two_pow_pos unitBits)

/-- How many bits an integer may have to be surely rounded to a finite number. -/
def safeIntegerBits : Nat := 1023

/-- An integer of few bits is rounded to a finite number. -/
theorem ofInt_isFinite
    {value : Int}
    (small : value.natAbs < 2 ^ safeIntegerBits) :
    (ofInt value).isFinite = true := by
  have scaled : value.natAbs * unitsPerOne / 1 < 2 ^ (safeIntegerBits + unitBits) := by
    rw [Nat.div_one]
    exact scaled_lt small
  exact nearest_isFinite (by decide) scaled (decide (value < 0))

/-- Rounding ends at an infinity exactly from halfway beyond the last number on. -/
theorem nearest_eq_infinity_iff
    {exponent num : Nat}
    (isCount : finiteCount = (exponent + 3) * 2 ^ 52)
    {sign negative : Bool} :
    nearest sign num 1 = .infinity negative ↔
      sign = negative ∧ (2 ^ 54 - 1) * 2 ^ exponent ≤ num := by
  have bounded := rank_lt_iff num exponent
  rw [← isCount] at bounded
  rw [nearest, Nat.div_one, ← Nat.not_lt, ← bounded]
  simp only [Nat.one_mul]
  change (if _ : (num.log2 - 52) * 2 ^ 52 + roundHalfEven num (2 ^ (num.log2 - 52)) < finiteCount
    then finite sign _ else infinity sign) = infinity negative ↔ _
  split
  · next below =>
    simp only [reduceCtorEq, false_iff, not_and, not_not]
    exact fun _ => below
  · next beyond =>
    simp only [infinity.injEq]
    exact ⟨fun same => ⟨same, beyond⟩, And.left⟩

-- the exponents are variables, since their powers have too many digits to be computed
/-- An integer is rounded to an infinity exactly from halfway beyond the last number on. -/
private theorem ofInt_eq_infinity_iff_of
    {bits exponent : Nat}
    (isUnit : unitsPerOne = Nat.pow 2 bits)
    (isCount : finiteCount = (exponent + bits + 3) * 2 ^ 52)
    {value : Int}
    {negative : Bool} :
    ofInt value = .infinity negative ↔
      decide (value < 0) = negative ∧ (2 ^ 54 - 1) * 2 ^ exponent ≤ value.natAbs := by
  rw [ofInt, isUnit, nearest_eq_infinity_iff isCount, Nat.pow_add, ← Nat.mul_assoc]
  exact and_congr_right fun _ => Nat.mul_le_mul_right_iff (Nat.two_pow_pos bits)

/-- Exactly from the middle between the largest finite number and `2 ^ 1024` on, an integer is rounded to
an infinity. -/
theorem ofInt_eq_infinity_iff
    {value : Int}
    {negative : Bool} :
    ofInt value = .infinity negative ↔
      decide (value < 0) = negative ∧ (2 ^ 54 - 1) * 2 ^ 970 ≤ value.natAbs :=
  ofInt_eq_infinity_iff_of unitsPerOne.eq_1 (by decide)

end Binary64

open Attempt in
/-- An integer that no finite number is near to cannot be rounded, and any other number can. -/
theorem Num.toReal_failsIf (number : Num) :
    FailsIf number.toReal .integerTooLarge
      (∃ value negative, number = .int value ∧ Binary64.ofInt value = .infinity negative) := by
  rw [toReal.eq_def]
  -- an arbitrary way to round stands for the real one, whose powers are not to be computed
  obtain ⟨round, rounding⟩ : ∃ round, round = Binary64.ofInt := ⟨_, rfl⟩
  rw [← rounding]
  cases number with
  | real value =>
      refine failsIf_of_ok ?_
      rintro ⟨other, negative, isInteger, -⟩
      exact absurd isInteger (by simp)
  | int value =>
      dsimp only
      cases rounded : round value with
      | infinity negative =>
          exact failsIf_of_error ⟨value, negative, rfl, rounded⟩
      | nan | finite =>
          refine failsIf_of_ok ?_
          rintro ⟨other, negative, same, infinite⟩
          obtain rfl := Num.int.inj same
          rw [rounded] at infinite
          exact absurd infinite (by simp)

/-- An integer can be rounded exactly if it is nearer to a finite number than to `2 ^ 1024`. -/
theorem Num.succeeds_int_iff {value : Int} :
    Attempt.Succeeds (Num.int value).toReal ↔ value.natAbs < (2 ^ 54 - 1) * 2 ^ 970 := by
  constructor
  · intro succeeds
    apply Nat.lt_of_not_le
    intro large
    have tooLarge := Binary64.ofInt_eq_infinity_iff.mpr ⟨rfl, large⟩
    have fails := (Num.toReal_failsIf (.int value)).fails ⟨value, _, rfl, tooLarge⟩
    exact Attempt.not_succeeds_error _ (fails ▸ succeeds)
  · intro small
    refine (Num.toReal_failsIf (.int value)).succeeds ?_
    rintro ⟨other, negative, isInteger, tooLarge⟩
    cases isInteger
    exact absurd small (Nat.not_lt.mpr (Binary64.ofInt_eq_infinity_iff.mp tooLarge).2)

end SceneEditor
