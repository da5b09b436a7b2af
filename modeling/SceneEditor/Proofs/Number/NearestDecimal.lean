import Mathlib.Tactic.Ring
import SceneEditor.Proofs.Number.Nearest
import SceneEditor.Proofs.Number.Numeral

namespace SceneEditor

/-!
# The number nearest to a decimal

A quotient is rounded by its value, however it is written.  So the number that is nearest to a decimal
does not depend on how many zeros end its digits, and the powers of ten that reading leaves out, since
no number needs them, make no difference.
-/

/-- Rounding a quotient does not depend on a common factor. -/
theorem roundHalfEven_mul
    (num den : Nat)
    {factor : Nat}
    (positive : 0 < factor) :
    roundHalfEven (num * factor) (den * factor) = roundHalfEven num den := by
  have twice : 2 * (num % den * factor) = 2 * (num % den) * factor :=
    (Nat.mul_assoc ..).symm
  simp only [roundHalfEven, Nat.mul_div_mul_right num den positive, Nat.mul_mod_mul_right, twice,
    Nat.mul_lt_mul_right positive]

namespace Binary64

/-- The number nearest to a quotient does not depend on a common factor. -/
theorem nearest_mul
    (negative : Bool)
    (num den : Nat)
    {factor : Nat}
    (positive : 0 < factor) :
    nearest negative (num * factor) (den * factor) = nearest negative num den := by
  have sameRank : nearestRank (num * factor) (den * factor) = nearestRank num den := by
    rw [nearestRank, Nat.mul_div_mul_right num den positive, Nat.mul_right_comm den factor,
      roundHalfEven_mul _ _ positive, nearestRank]
  simp only [nearest_eq, sameRank]

/-- A number of the format is nearest to the quotients that it is equal to. -/
theorem nearest_units
    (negative : Bool)
    (rank : Fin finiteCount)
    {den : Nat}
    (positive : 0 < den) :
    nearest negative (units rank * den) den = finite negative rank := by
  have sameRank : nearestRank (units rank * den) den = rank :=
    Nat.le_antisymm (nearestRank_le positive (Nat.le_refl _)) (le_nearestRank positive (Nat.le_refl _))
  simp only [nearest_eq, sameRank, rank.isLt, dif_pos]

/-- The sign of a quotient goes over to the number that is nearest to it. -/
theorem nearest_of_nearest
    {sign : Bool}
    {num den : Nat}
    {rank : Fin finiteCount}
    (isNearest : nearest sign num den = finite sign rank)
    (negative : Bool) :
    nearest negative num den = finite negative rank := by
  rw [nearest_eq] at isNearest ⊢
  split at isNearest
  · next bounded =>
    rw [dif_pos bounded, (finite.inj isNearest).2]
  · exact nomatch isNearest

/-- Zero is rounded to zero. -/
theorem nearest_zero
    (negative : Bool)
    (den : Nat) :
    nearest negative 0 den = zero negative := by
  simp only [nearest_eq, Num.nearestRank_zero]
  rfl

/-- What is less than half a unit is rounded to zero. -/
theorem nearest_of_small
    (negative : Bool)
    {num den : Nat}
    (small : 2 * num < den) :
    nearest negative num den = zero negative := by
  have noWhole : num / den = 0 := Nat.div_eq_of_lt (by omega)
  have rest : num % den = num := Nat.mod_eq_of_lt (by omega)
  have isRank : nearestRank num den = 0 := by
    simp [nearestRank, noWhole, roundHalfEven, rest, small]
  simp only [nearest_eq, isRank]
  rfl

/-- What is not below the first power of two behind all finite numbers is rounded to an infinity. -/
theorem nearest_of_large
    (negative : Bool)
    {num den : Nat}
    (positive : 0 < den)
    (large : units finiteCount * den ≤ num) :
    nearest negative num den = infinity negative := by
  rw [nearest_eq, dif_neg (Nat.not_lt.mpr (le_nearestRank positive large))]

/-!
## Decimals
-/

/-- A decimal with an exponent that is not negative is a whole number. -/
theorem ofDecimal_natCast
    (negative : Bool)
    (coefficient power : Nat) :
    ofDecimal negative coefficient power =
      nearest negative (coefficient * 10 ^ power * unitsPerOne) 1 := by
  rw [← Int.ofNat_eq_natCast, ofDecimal]
  rfl

/-- A decimal with a negative exponent is a quotient. -/
theorem ofDecimal_negSucc
    (negative : Bool)
    (coefficient power : Nat) :
    ofDecimal negative coefficient (.negSucc power) =
      nearest negative (coefficient * unitsPerOne) (10 ^ (power + 1)) := by
  rw [ofDecimal]
  rfl

/-- Every exponent is a difference of natural numbers, so each decimal is nearest to one quotient. -/
theorem ofDecimal_sub
    (negative : Bool)
    (coefficient above below : Nat) :
    ofDecimal negative coefficient ((above : Int) - below) =
      nearest negative (coefficient * 10 ^ above * unitsPerOne) (10 ^ below) := by
  have positive (power : Nat) : 0 < 10 ^ power := Nat.pow_pos (by decide)
  rcases Nat.lt_or_ge above below with fraction | whole
  · obtain ⟨power, rfl⟩ := Nat.exists_eq_add_of_lt fraction
    have isPower : (above : Int) - (above + power + 1 : Nat) = .negSucc power := by
      omega
    have divisor : 10 ^ (above + power + 1) = 10 ^ (power + 1) * 10 ^ above := by
      rw [← Nat.pow_add, Nat.add_comm (power + 1), Nat.add_assoc]
    rw [isPower, ofDecimal_negSucc, Nat.mul_right_comm, divisor, nearest_mul _ _ _ (positive above)]
  · obtain ⟨power, rfl⟩ := Nat.exists_eq_add_of_le whole
    have isPower : ((below + power : Nat) : Int) - below = power := by
      omega
    have scaled :
        coefficient * 10 ^ (below + power) * unitsPerOne =
          coefficient * 10 ^ power * unitsPerOne * 10 ^ below := by
      rw [Nat.pow_add]
      ring
    have reduced := nearest_mul negative (coefficient * 10 ^ power * unitsPerOne) 1 (positive below)
    rw [Nat.one_mul] at reduced
    rw [isPower, ofDecimal_natCast, scaled, reduced]

theorem exists_sub (exponent : Int) :
    ∃ above below : Nat, exponent = above - below :=
  ⟨exponent.toNat, (-exponent).toNat, by omega⟩

/-- Zeros at the end of the digits can be exchanged for the exponent. -/
theorem ofDecimal_mul_pow
    (negative : Bool)
    (coefficient zeros : Nat)
    (exponent : Int) :
    ofDecimal negative (coefficient * 10 ^ zeros) exponent =
      ofDecimal negative coefficient (exponent + zeros) := by
  obtain ⟨above, below, rfl⟩ := exists_sub exponent
  have raised : (above : Int) - below + zeros = (zeros + above : Nat) - below := by
    omega
  rw [raised, ofDecimal_sub, ofDecimal_sub, Nat.pow_add, Nat.mul_assoc coefficient]

/-!
## Decimals beyond the range of the format
-/

/-- No finite number has more than four hundred digits in front of the point. -/
theorem units_finiteCount_le :
    units finiteCount ≤ 10 ^ 400 * unitsPerOne := by
  decide +kernel

/-- Half the least number of the format is more than `10 ^ (-400)`. -/
theorem unitsPerOne_lt :
    2 * unitsPerOne < 10 ^ 400 := by
  decide +kernel

/-- A decimal of more than four hundred places is infinite. -/
theorem ofDecimal_of_large
    (negative : Bool)
    {coefficient length : Nat}
    {exponent : Int}
    (large : 10 ^ length ≤ coefficient)
    (far : 400 ≤ length + exponent) :
    ofDecimal negative coefficient exponent = infinity negative := by
  obtain ⟨above, below, rfl⟩ := exists_sub exponent
  rw [ofDecimal_sub]
  refine nearest_of_large negative (Nat.pow_pos (by decide)) ?_
  calc units finiteCount * 10 ^ below
      ≤ 10 ^ 400 * unitsPerOne * 10 ^ below := Nat.mul_le_mul_right _ units_finiteCount_le
    _ = 10 ^ (400 + below) * unitsPerOne := by rw [Nat.pow_add, Nat.mul_right_comm]
    _ ≤ 10 ^ (length + above) * unitsPerOne :=
      Nat.mul_le_mul_right _ (Nat.pow_le_pow_right (by decide) (by omega))
    _ ≤ coefficient * 10 ^ above * unitsPerOne := by
      rw [Nat.pow_add]
      exact Nat.mul_le_mul_right _ (Nat.mul_le_mul_right _ large)

/-- A decimal that begins four hundred places behind the point is zero. -/
theorem ofDecimal_of_small
    (negative : Bool)
    {coefficient length : Nat}
    {exponent : Int}
    (small : coefficient < 10 ^ length)
    (far : length + exponent ≤ -400) :
    ofDecimal negative coefficient exponent = zero negative := by
  obtain ⟨above, below, rfl⟩ := exists_sub exponent
  rw [ofDecimal_sub]
  refine nearest_of_small negative ?_
  have positive : 0 < 10 ^ above := Nat.pow_pos (by decide)
  calc 2 * (coefficient * 10 ^ above * unitsPerOne)
      = coefficient * 10 ^ above * (2 * unitsPerOne) := by ring
    _ ≤ 10 ^ length * 10 ^ above * (2 * unitsPerOne) :=
      Nat.mul_le_mul_right _ (Nat.mul_le_mul_right _ (Nat.le_of_lt small))
    _ < 10 ^ length * 10 ^ above * 10 ^ 400 :=
      Nat.mul_lt_mul_of_pos_left unitsPerOne_lt (Nat.mul_pos (Nat.pow_pos (by decide)) positive)
    _ = 10 ^ (length + above + 400) := by rw [← Nat.pow_add, ← Nat.pow_add]
    _ ≤ 10 ^ below := Nat.pow_le_pow_right (by decide) (by omega)

end Binary64

/-!
## What reading leaves out
-/

namespace Numeral

open Binary64

/-- Zeros in front add nothing to a value. -/
theorem valueOf_dropWhile_zero (digits : List Nat) :
    valueOf (digits.dropWhile (· = 0)) = valueOf digits := by
  induction digits with
  | nil =>
      rfl
  | cons digit rest inductionHypothesis =>
      by_cases isZero : digit = 0
      · subst isZero
        rw [List.dropWhile_cons_of_pos (by decide), inductionHypothesis]
        rfl
      · rw [List.dropWhile_cons_of_neg (by simpa using isZero)]

/-- Digits behind a first one that is not zero write at least the power of ten of their number. -/
theorem le_valueOf
    {digit : Nat}
    (notZero : digit ≠ 0)
    (rest : List Nat) :
    10 ^ rest.length ≤ valueOf (digit :: rest) := by
  have bounded (start : Nat) :
      start * 10 ^ rest.length ≤ rest.foldl (fun value digit => value * 10 + digit) start := by
    induction rest generalizing start with
    | nil =>
        simp
    | cons digit rest inductionHypothesis =>
        calc start * 10 ^ (digit :: rest).length
            = start * 10 * 10 ^ rest.length := by
              rw [List.length_cons, Nat.pow_succ', Nat.mul_assoc]
          _ ≤ (start * 10 + digit) * 10 ^ rest.length := Nat.mul_le_mul_right _ (Nat.le_add_right _ _)
          _ ≤ _ := inductionHypothesis _
  calc 10 ^ rest.length
      ≤ digit * 10 ^ rest.length := Nat.le_mul_of_pos_left _ (Nat.pos_of_ne_zero notZero)
    _ ≤ (0 * 10 + digit) * 10 ^ rest.length := by rw [Nat.zero_mul, Nat.zero_add]
    _ ≤ _ := bounded _

/-- Digits are read as the number that is nearest to the decimal that they write. -/
theorem nearestDecimal_eq
    (negative : Bool)
    {digits : List Nat}
    (small : ∀ digit ∈ digits, digit < 10)
    (exponent : Int) :
    nearestDecimal negative digits exponent = ofDecimal negative (valueOf digits) exponent := by
  rw [nearestDecimal, ← valueOf_dropWhile_zero digits]
  have significantSmall : ∀ digit ∈ digits.dropWhile (· = 0), digit < 10 :=
    fun digit member => small digit ((List.dropWhile_sublist _).subset member)
  have notZero := List.head?_dropWhile_not (· = 0) digits
  generalize digits.dropWhile (· = 0) = significant at significantSmall notZero ⊢
  cases significant with
  | nil =>
      obtain ⟨above, below, rfl⟩ := exists_sub exponent
      rw [ofDecimal_sub]
      simp [valueOf, nearest_zero]
  | cons digit rest =>
      have first : digit ≠ 0 := by simpa using notZero
      rw [if_neg (by simp)]
      split
      · next far =>
        have beyond : 400 ≤ rest.length + exponent := by
          rw [List.length_cons] at far
          omega
        exact (ofDecimal_of_large negative (le_valueOf first rest) beyond).symm
      · split
        · next far =>
          exact (ofDecimal_of_small negative (valueOf_lt significantSmall) (by omega)).symm
        · rfl

end Numeral

end SceneEditor
