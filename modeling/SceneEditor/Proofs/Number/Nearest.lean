import Mathlib.Algebra.Order.Ring.Int
import SceneEditor.Proofs.Number.Order
import SceneEditor.Proofs.Number.Rounding

namespace SceneEditor.Binary64

/-!
# The nearest number

The number that is nearest to a quotient is one of the two neighbours between which the quotient lies,
and it is the quotient if that is a number of the format.  So rounding keeps the order: what is below a
number of the format is not rounded beyond it.
-/

/-- The rank of the number that is nearest to a quotient, before the range of the format is looked at. -/
def nearestRank (num den : Nat) : Nat :=
  ((num / den).log2 - 52) * 2 ^ 52 + roundHalfEven num (den * 2 ^ ((num / den).log2 - 52))

/-- The last rank whose number is not above a quotient. -/
def floorRank (num den : Nat) : Nat :=
  ((num / den).log2 - 52) * 2 ^ 52 + num / (den * 2 ^ ((num / den).log2 - 52))

/-- The nearest number is the one of the nearest rank, or an infinity beyond the last. -/
theorem nearest_eq (negative : Bool) (num den : Nat) :
    nearest negative num den =
      if bounded : nearestRank num den < finiteCount then
        finite negative ⟨nearestRank num den, bounded⟩
      else
        infinity negative :=
  rfl

/-- A rank that is put together of a shift and a significand has the units of the two. -/
theorem units_scaled
    {shift significand : Nat}
    (normal : shift = 0 ∨ 2 ^ 52 ≤ significand)
    (bounded : significand ≤ 2 ^ 53) :
    units (shift * 2 ^ 52 + significand) = significand * 2 ^ shift := by
  rcases Nat.eq_zero_or_pos shift with rfl | positive
  · rcases Nat.eq_or_lt_of_le bounded with rfl | small
    · decide
    · rw [Nat.zero_mul, Nat.zero_add, units_of_lt small, Nat.pow_zero, Nat.mul_one]
  · have large : 2 ^ 52 ≤ significand := normal.resolve_left (Nat.ne_of_gt positive)
    rw [units_of_le (by omega)]
    rcases Nat.eq_or_lt_of_le bounded with rfl | small
    · have isShift : (shift * 2 ^ 52 + 2 ^ 53) / 2 ^ 52 - 1 = shift + 1 := by omega
      have isRest : (shift * 2 ^ 52 + 2 ^ 53) % 2 ^ 52 = 0 := by omega
      have power : 2 ^ 53 = 2 ^ 52 * 2 := by decide
      rw [isShift, isRest, Nat.add_zero, Nat.pow_succ' (n := shift), ← Nat.mul_assoc, power]
    · have isShift : (shift * 2 ^ 52 + significand) / 2 ^ 52 - 1 = shift := by omega
      have isRest : 2 ^ 52 + (shift * 2 ^ 52 + significand) % 2 ^ 52 = significand := by omega
      rw [isShift, isRest]

/-- A quotient without its last bits is a significand. -/
theorem floor_bounds (num den : Nat) :
    let shift := (num / den).log2 - 52
    let floor := num / (den * 2 ^ shift)
    (shift = 0 ∨ 2 ^ 52 ≤ floor) ∧ floor < 2 ^ 53 := by
  intro shift floor
  have isFloor : floor = num / den / 2 ^ shift := (Nat.div_div_eq_div_mul ..).symm
  refine ⟨?_, isFloor ▸ div_shift_lt (num / den)⟩
  rcases Nat.eq_zero_or_pos shift with none | positive
  · exact Or.inl none
  · right
    have notZero : num / den ≠ 0 := by
      intro isZero
      simp [shift, isZero] at positive
    rw [isFloor, Nat.le_div_iff_mul_le (Nat.two_pow_pos _), ← Nat.pow_add]
    have isLog : 52 + shift = (num / den).log2 := by omega
    rw [isLog]
    exact Nat.log2_self_le notZero

/-- A quotient lies between two neighbours of the format. -/
theorem units_floorRank
    (num : Nat)
    {den : Nat}
    (positive : 0 < den) :
    units (floorRank num den) * den ≤ num ∧ num < units (floorRank num den + 1) * den := by
  obtain ⟨normal, small⟩ := floor_bounds num den
  rw [floorRank]
  rw [Nat.add_assoc]
  rw [units_scaled normal (Nat.le_of_lt small)]
  rw [units_scaled (normal.imp_right (Nat.le_trans · (Nat.le_succ _))) small]
  have scaled (floor : Nat) :
      floor * 2 ^ ((num / den).log2 - 52) * den = den * 2 ^ ((num / den).log2 - 52) * floor := by
    ring
  rw [scaled, scaled]
  have divisor : 0 < den * 2 ^ ((num / den).log2 - 52) :=
    Nat.mul_pos positive (Nat.two_pow_pos _)
  exact ⟨Nat.mul_div_le .., Nat.lt_mul_div_succ num divisor⟩

/-- The nearest rank is the one below a quotient or the next. -/
theorem nearestRank_cases (num den : Nat) :
    floorRank num den ≤ nearestRank num den ∧ nearestRank num den ≤ floorRank num den + 1 := by
  rw [floorRank, nearestRank, Nat.add_assoc]
  exact ⟨Nat.add_le_add_left (le_roundHalfEven _ _) _,
    Nat.add_le_add_left (roundHalfEven_le _ _) _⟩

theorem le_of_units_le
    {first second : Nat}
    (notAbove : units first ≤ units second) :
    first ≤ second :=
  Nat.le_of_not_lt fun after => Nat.not_lt_of_le notAbove (units_lt after)

/-- A rank that is not earlier is a number that is not smaller. -/
theorem units_le
    {first second : Nat}
    (notAfter : first ≤ second) :
    units first ≤ units second :=
  (Nat.eq_or_lt_of_le notAfter).elim (fun same => same ▸ Nat.le_refl _)
    fun before => Nat.le_of_lt (units_lt before)

/-- Ranks are ordered as their numbers. -/
theorem units_lt_iff
    {first second : Nat} :
    units first < units second ↔ first < second :=
  ⟨fun below => Nat.lt_of_not_le fun after => Nat.not_lt_of_le (units_le after) below, units_lt⟩

/-- A quotient that is a number of the format is its own nearest number. -/
theorem nearestRank_of_exact
    {num den : Nat}
    (positive : 0 < den)
    (exact : units (floorRank num den) * den = num) :
    nearestRank num den = floorRank num den := by
  obtain ⟨normal, small⟩ := floor_bounds num den
  have divisor : 0 < den * 2 ^ ((num / den).log2 - 52) :=
    Nat.mul_pos positive (Nat.two_pow_pos _)
  rw [floorRank, units_scaled normal (Nat.le_of_lt small), Nat.mul_right_comm, Nat.mul_assoc] at exact
  rw [floorRank, nearestRank, roundHalfEven]
  have noRest : num % (den * 2 ^ ((num / den).log2 - 52)) = 0 := by
    have split := Nat.div_add_mod num (den * 2 ^ ((num / den).log2 - 52))
    rw [Nat.mul_comm] at split
    omega
  rw [noRest, if_pos (by omega)]

/-- What is not above a number is not rounded above it. -/
theorem nearestRank_le
    {num den rank : Nat}
    (positive : 0 < den)
    (notAbove : num ≤ units rank * den) :
    nearestRank num den ≤ rank := by
  obtain ⟨lower, upper⟩ := units_floorRank num positive
  have floorLe : floorRank num den ≤ rank :=
    le_of_units_le (Nat.le_of_mul_le_mul_right (Nat.le_trans lower notAbove) positive)
  rcases Nat.eq_or_lt_of_le floorLe with same | before
  · rw [nearestRank_of_exact positive (Nat.le_antisymm lower (same ▸ notAbove))]
    exact floorLe
  · exact Nat.le_trans (nearestRank_cases num den).2 before

/-- What is not below a number is not rounded below it. -/
theorem le_nearestRank
    {num den rank : Nat}
    (positive : 0 < den)
    (notBelow : units rank * den ≤ num) :
    rank ≤ nearestRank num den := by
  obtain ⟨-, upper⟩ := units_floorRank num positive
  have before : units rank < units (floorRank num den + 1) :=
    Nat.lt_of_mul_lt_mul_right (Nat.lt_of_le_of_lt notBelow upper)
  have floorLe : rank ≤ floorRank num den := by
    exact Nat.le_of_lt_succ (units_lt_iff.mp before)
  exact Nat.le_trans floorLe (nearestRank_cases num den).1

/-- A number below the nearest one is below the quotient. -/
theorem lt_of_lt_nearestRank
    {num den rank : Nat}
    (positive : 0 < den)
    (below : units rank < units (nearestRank num den)) :
    units rank * den < num :=
  Nat.lt_of_not_le fun notAbove =>
    Nat.not_lt_of_le (units_le (nearestRank_le positive notAbove)) below

/-- A number above the nearest one is above the quotient. -/
theorem lt_of_nearestRank_lt
    {num den rank : Nat}
    (positive : 0 < den)
    (above : units (nearestRank num den) < units rank) :
    num < units rank * den :=
  Nat.lt_of_not_le fun notBelow =>
    Nat.not_lt_of_le (units_le (le_nearestRank positive notBelow)) above

/-- A number of units that has few bits is close to its nearest number. -/
theorem units_nearestRank
    {num bits : Nat}
    (small : num < 2 ^ (53 + bits)) :
    units (nearestRank num 1) ≤ num + 2 ^ bits ∧ num ≤ units (nearestRank num 1) + 2 ^ bits := by
  obtain ⟨lower, upper⟩ := units_floorRank num Nat.one_pos
  rw [Nat.mul_one] at lower upper
  have step : units (floorRank num 1 + 1) ≤ units (floorRank num 1) + 2 ^ bits := by
    obtain ⟨normal, significand⟩ := floor_bounds num 1
    rw [floorRank, Nat.add_assoc, units_scaled normal (Nat.le_of_lt significand),
      units_scaled (normal.imp_right (Nat.le_trans · (Nat.le_succ _))) significand, Nat.succ_mul]
    refine Nat.add_le_add_left (Nat.pow_le_pow_right Nat.two_pos ?_) _
    rw [Nat.div_one]
    exact shift_le small
  have notBefore := units_le (nearestRank_cases num 1).1
  have notAfter := units_le (nearestRank_cases num 1).2
  constructor
  · omega
  · omega

/-- Each large power of two is a number of its own. -/
theorem exists_units_power (bits : Nat) :
    ∃ rank, units rank = 2 ^ (53 + bits) := by
  refine ⟨(bits + 1) * 2 ^ 52 + 2 ^ 52, ?_⟩
  rw [units_scaled (Or.inr (Nat.le_refl _)) (by decide), ← Nat.pow_add]
  congr 1
  omega

/-- A number of units has few bits if its nearest number has. -/
theorem lt_power_of_nearestRank
    {num bits : Nat}
    (small : units (nearestRank num 1) < 2 ^ (53 + bits)) :
    num < 2 ^ (53 + bits) := by
  obtain ⟨rank, isPower⟩ := exists_units_power bits
  rw [← isPower] at small ⊢
  have below := lt_of_nearestRank_lt Nat.one_pos small
  omega

/-!
## Operations that give numbers
-/

/-- Rounding always gives a number. -/
theorem isNan_nearest
    (negative : Bool)
    (num den : Nat) :
    (nearest negative num den).isNan = false := by
  rw [nearest_eq]
  split
  · rfl
  · rfl

/-- A change of sign makes no number out of what is none. -/
theorem isNan_neg (value : Binary64) :
    value.neg.isNan = value.isNan := by
  cases value <;> rfl

/-- A change of sign keeps a number finite. -/
theorem isFinite_neg (value : Binary64) :
    value.neg.isFinite = value.isFinite := by
  cases value <;> rfl

/-- A sum is a number if one of the two is finite. -/
theorem isNan_add
    {left right : Binary64}
    (ofLeft : left.isNan = false)
    (ofRight : right.isNan = false)
    (finite : left.isFinite = true ∨ right.isFinite = true) :
    (left.add right).isNan = false := by
  rcases left with _ | s | ⟨s, a⟩ <;> rcases right with _ | t | ⟨t, b⟩
  case finite.finite =>
    rw [add]
    split
    · rfl
    · exact isNan_nearest _ _ _
  all_goals
    simp_all [add, isNan, isFinite]

/-- The difference of two numbers is one, unless both are infinite. -/
theorem isNan_sub
    {left right : Binary64}
    (ofLeft : left.isNan = false)
    (ofRight : right.isNan = false)
    (finite : left.isFinite = true ∨ right.isFinite = true) :
    (left.sub right).isNan = false := by
  rw [← isNan_neg] at ofRight
  rw [← isFinite_neg right] at finite
  exact isNan_add ofLeft ofRight finite

/-- A quotient by a finite number other than zero is a number. -/
theorem isNan_div
    {left : Binary64}
    (ofLeft : left.isNan = false)
    (negative : Bool)
    {rank : Fin finiteCount}
    (notZero : (rank : Nat) ≠ 0) :
    (left.div (finite negative rank)).isNan = false := by
  rcases left with _ | s | ⟨s, a⟩
  · exact ofLeft
  · rfl
  · rw [div, if_neg notZero]
    exact isNan_nearest _ _ _

/-- A product with a finite number other than zero is a number. -/
theorem isNan_mul
    {left : Binary64}
    (ofLeft : left.isNan = false)
    (negative : Bool)
    {rank : Fin finiteCount}
    (notZero : (rank : Nat) ≠ 0) :
    (left.mul (finite negative rank)).isNan = false := by
  rcases left with _ | s | ⟨s, a⟩
  · exact ofLeft
  · rw [mul, if_neg notZero]
    rfl
  · rw [mul]
    exact isNan_nearest _ _ _

theorem signedUnits_not
    (negative : Bool)
    (rank : Nat) :
    signedUnits (!negative) rank = -signedUnits negative rank := by
  cases negative
  · rfl
  · exact (Int.neg_neg _).symm

theorem isNan_of_isFinite
    {value : Binary64}
    (finite : value.isFinite = true) :
    value.isNan = false := by
  cases value with
  | nan | infinity =>
      exact absurd finite Bool.false_ne_true
  | finite =>
      rfl

/-- A finite number has a sign and a rank. -/
theorem exists_of_isFinite
    {value : Binary64}
    (finite : value.isFinite = true) :
    ∃ negative rank, value = .finite negative rank := by
  cases value with
  | nan | infinity =>
      exact absurd finite Bool.false_ne_true
  | finite negative rank =>
      exact ⟨negative, rank, rfl⟩

end SceneEditor.Binary64

namespace SceneEditor

open Binary64

/-!
## Places of nearest numbers
-/

/-- The place of the number of a rank, which is beyond all numbers if there is none of that rank. -/
def Num.Line.ofRank (rank : Nat) : Num.Line :=
  if rank < finiteCount then .ofUnits (units rank) else ⊤

/-- A finite rank stands at its units. -/
theorem Num.Line.ofRank_of_lt
    {rank : Nat}
    (finite : rank < finiteCount) :
    ofRank rank = .ofUnits (units rank) :=
  if_pos finite

/-- Ranks stand in their order. -/
theorem Num.Line.ofRank_le_ofRank
    {first second : Nat}
    (notAfter : first ≤ second) :
    ofRank first ≤ ofRank second := by
  unfold ofRank
  split
  · split
    · exact ofUnits_le_ofUnits.mpr (Int.ofNat_le.mpr (units_le notAfter))
    · exact le_top
  · rw [if_neg (by omega)]

/-- What stands at a number of the format or after it, and not at the end, is a number of units. -/
theorem Num.Line.exists_of_ofRank_le
    {rank : Nat}
    {place : Num.Line}
    (notBelow : ofRank rank ≤ place)
    (notTop : place ≠ ⊤) :
    ∃ count : Nat, place = .ofUnits count ∧ rank < finiteCount ∧ units rank ≤ count := by
  have below : place < ⊤ := lt_top_iff_ne_top.mpr notTop
  have inRange : rank < finiteCount := by
    by_contra beyond
    rw [ofRank, if_neg beyond] at notBelow
    exact not_top_lt (lt_of_le_of_lt notBelow below)
  rw [ofRank_of_lt inRange] at notBelow
  obtain ⟨between, rfl, notBefore⟩ := exists_ofUnits notBelow below
  obtain ⟨count, rfl⟩ := Int.eq_ofNat_of_zero_le (Int.le_trans (Int.natCast_nonneg _) notBefore)
  exact ⟨count, rfl, inRange, Int.ofNat_le.mp notBefore⟩

namespace Num

/-- The nearest number stands at the place of its rank. -/
theorem place?_nearest (num den : Nat) :
    (real (nearest false num den)).place? = some (.ofRank (nearestRank num den)) := by
  rw [nearest_eq]
  split
  · next bounded =>
    rw [Line.ofRank_of_lt bounded]
    rfl
  · next beyond =>
    rw [Line.ofRank, if_neg beyond]
    rfl

theorem nearestRank_zero (den : Nat) :
    nearestRank 0 den = 0 := by
  simp [nearestRank, roundHalfEven_zero]

/-- The sum of two finite numbers is rounded once. -/
theorem place?_add
    {s t : Bool}
    {a b : Fin finiteCount}
    {sum : Nat}
    (isSum : signedUnits s a + signedUnits t b = sum) :
    (real ((Binary64.finite s a).add (.finite t b))).place? = some (.ofRank (nearestRank sum 1)) := by
  rw [Binary64.add, isSum]
  split
  · next isZero =>
    rw [Int.ofNat_eq_zero.mp isZero, nearestRank_zero]
    cases s && t
    · rfl
    · rfl
  · rw [decide_eq_false (by omega), Int.natAbs_natCast]
    exact place?_nearest sum 1

/-!
## Numbers that are rounded
-/

/-- A natural number is rounded from its units. -/
theorem ofInt_natCast (count : Nat) :
    ofInt count = nearest false (count * unitsPerOne) 1 := by
  have notNegative : decide ((count : Int) < 0) = false :=
    decide_eq_false (Int.not_lt.mpr (Int.natCast_nonneg count))
  rw [ofInt, notNegative, Int.natAbs_natCast]

/-- Only a finite number stands at a place of units. -/
theorem exists_finite_of_place
    {value : Binary64}
    {units : Int}
    (placed : (real value).place? = some (.ofUnits units)) :
    ∃ negative rank, value = .finite negative rank ∧ signedUnits negative rank = units := by
  rcases value with _ | (_ | _) | ⟨negative, rank⟩
  · exact nomatch placed
  · exact absurd (Option.some.inj placed).symm (Line.ofUnits_ne_top units)
  · exact absurd (Option.some.inj placed).symm (Line.ofUnits_ne_bot units)
  · exact ⟨negative, rank, rfl, Line.ofUnits_inj.mp (Option.some.inj placed)⟩

/-- An integer that is not negative has the place of its nearest number. -/
theorem toReal_natCast
    {count : Nat}
    {real : Binary64}
    (ofCount : (int count).toReal = .ok real) :
    nearestRank (count * unitsPerOne) 1 < finiteCount ∧
      (Num.real real).place? = some (.ofRank (nearestRank (count * unitsPerOne) 1)) := by
  rw [toReal.eq_def] at ofCount
  have placed := place?_nearest (count * unitsPerOne) 1
  have shape := nearest_eq false (count * unitsPerOne) 1
  rw [← ofInt_natCast] at placed shape
  -- an arbitrary way to round stands for the real one, whose powers are not to be computed
  obtain ⟨round, rounding⟩ : ∃ round, round = Binary64.ofInt := ⟨_, rfl⟩
  rw [← rounding] at ofCount placed shape
  generalize nearestRank (count * unitsPerOne) 1 = rank at placed shape ⊢
  dsimp only at ofCount
  cases rounded : round count with
  | infinity negative =>
      rw [rounded] at ofCount
      cases ofCount
  | nan | finite =>
      rw [rounded] at ofCount placed shape
      obtain rfl := Except.ok.inj ofCount
      refine ⟨?_, placed⟩
      by_contra beyond
      rw [dif_neg beyond] at shape
      cases shape

/-- A finite number that is not negative and its nearest number lie on the same side of every number of
the format. -/
theorem exists_finite_of_toReal
    {number : Num}
    {real : Binary64}
    (ofNumber : number.toReal = .ok real)
    {units : Int}
    (placed : number.place? = some (.ofUnits units))
    (notNegative : 0 ≤ units) :
    ∃ sign nearest, real = .finite sign nearest ∧
      ∀ (negative : Bool) (rank : Fin finiteCount),
        (units ≤ signedUnits negative rank →
          signedUnits sign nearest ≤ signedUnits negative rank) ∧
        (signedUnits negative rank ≤ units →
          signedUnits negative rank ≤ signedUnits sign nearest) := by
  cases number with
  | real value =>
      obtain rfl := Except.ok.inj ofNumber
      obtain ⟨sign, nearest, rfl, rfl⟩ := exists_finite_of_place placed
      exact ⟨sign, nearest, rfl, fun _ _ => ⟨fun notAbove => notAbove, fun notBelow => notBelow⟩⟩
  | int value =>
      rw [place?_int] at placed
      obtain rfl := Line.ofUnits_inj.mp (Option.some.inj placed)
      have positive : 0 < (unitsPerOne : Int) := Int.natCast_pos.mpr unitsPerOne_pos
      obtain ⟨count, rfl⟩ := Int.eq_ofNat_of_zero_le (nonneg_of_mul_nonneg_left notNegative positive)
      obtain ⟨bounded, rounded⟩ := toReal_natCast ofNumber
      rw [Line.ofRank_of_lt bounded] at rounded
      obtain ⟨sign, nearest, rfl, same⟩ := exists_finite_of_place rounded
      refine ⟨sign, nearest, rfl, fun negative rank => ?_⟩
      have isCount : ((count : Int) * (unitsPerOne : Int)) = ((count * unitsPerOne : Nat) : Int) := by
        push_cast
        rfl
      rw [isCount, same]
      generalize count * unitsPerOne = num at bounded ⊢
      cases negative with
      | false =>
          simp only [signedUnits, Bool.false_eq_true, if_false, Int.ofNat_le]
          constructor
          · intro notAbove
            exact units_le (nearestRank_le Nat.one_pos (by omega))
          · intro notBelow
            exact units_le (le_nearestRank Nat.one_pos (by omega))
      | true =>
          simp only [signedUnits, if_true]
          constructor
          · intro notAbove
            obtain rfl : num = 0 := by omega
            rw [nearestRank_zero]
            exact notAbove
          · omega

end Num

end SceneEditor
