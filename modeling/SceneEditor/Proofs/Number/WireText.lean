import SceneEditor.Proofs.Number.ShortestText

namespace SceneEditor

/-!
# The text of a number on the wire

Numbers of either kind are written alike exactly if they are equal.  A whole number is written as the
integer that it is, digit by digit, and every other one by its shortest text, which tells the number
since it is read as that number, and which no integer is written like.
-/

/-!
## Texts of integers
-/

/-- Only digits and the sign stand in the text of an integer. -/
theorem notMem_toString_int
    {c : Char}
    (noDigit : c.isDigit = false)
    (noSign : c ≠ '-')
    (whole : Int) :
    c ∉ (toString whole).toList := by
  rw [toList_toString_int]
  intro member
  rcases List.mem_append.mp member with inSign | inDigits
  · split at inSign
    · exact noSign (List.mem_singleton.mp inSign)
    · exact absurd inSign List.not_mem_nil
  · have isDigit := Nat.isDigit_of_mem_toDigits (by decide) (by decide) inDigits
    exact absurd isDigit (Bool.eq_false_iff.mp noDigit)

namespace Binary64

/-!
## Whole numbers among the floating-point numbers
-/

/-- A signed number of units is a whole multiple of a unit exactly if its quotient is that multiple. -/
theorem quotient_eq_some_iff
    {units unit : Nat}
    (positive : 0 < unit)
    (negative : Bool)
    (whole : Int) :
    (if units % unit = 0 then
        some (if negative then -((units / unit : Nat) : Int) else (units / unit : Nat))
      else none) = some whole ↔
      (if negative then -(units : Int) else units) = whole * unit := by
  constructor
  · intro found
    split at found
    · next noRest =>
      have isProduct : (units : Int) = (units / unit : Nat) * unit := by
        exact_mod_cast (Nat.div_mul_cancel (Nat.dvd_of_mod_eq_zero noRest)).symm
      obtain rfl := Option.some.inj found
      cases negative with
      | false =>
          exact isProduct
      | true =>
          simp only [if_true, Int.neg_mul]
          rw [← isProduct]
    · exact nomatch found
  · intro same
    have magnitude : units = whole.natAbs * unit := by
      have sameSize := congrArg Int.natAbs same
      rw [Int.natAbs_mul, Int.natAbs_natCast] at sameSize
      rw [← sameSize]
      cases negative with
      | false | true =>
          simp
    rw [magnitude, Nat.mul_mod_left, if_pos rfl, Nat.mul_div_cancel _ positive]
    have unitPositive : (0 : Int) < unit := Int.natCast_pos.mpr positive
    cases negative with
    | false =>
        have notNegative : 0 ≤ whole := by
          by_contra below
          have product := Int.mul_neg_of_neg_of_pos (Int.not_le.mp below) unitPositive
          simp only [Bool.false_eq_true, if_false] at same
          omega
        simp only [Bool.false_eq_true, if_false, Int.natAbs_of_nonneg notNegative]
    | true =>
        have notPositive : whole ≤ 0 := by
          by_contra above
          have product := Int.mul_pos (Int.not_le.mp above) unitPositive
          simp only [if_true] at same
          omega
        simp only [if_true, Int.ofNat_natAbs_of_nonpos notPositive, Int.neg_neg]

/-- A real number is integral exactly if it equals an integer. -/
theorem integral?_eq_some_iff
    {value : Binary64}
    {whole : Int} :
    value.integral? = some whole ↔ (Num.real value).equals (.int whole) = true := by
  cases value with
  | nan | infinity =>
      exact ⟨fun never => absurd never (Option.some_ne_none whole).symm,
        fun never => absurd never Bool.false_ne_true⟩
  | finite negative rank =>
      rw [Num.equals, decide_eq_true_eq]
      exact quotient_eq_some_iff unitsPerOne_pos negative whole

/-- Numbers at one place other than zero are one number. -/
theorem signedUnits_inj
    {s t : Bool}
    {a b : Nat}
    (notZero : units a ≠ 0)
    (same : signedUnits s a = signedUnits t b) :
    s = t ∧ a = b := by
  have sameUnits : s = t ∧ units a = units b := by
    unfold signedUnits at same
    cases s <;> cases t
    · simpa using same
    · simp only [Bool.false_eq_true, if_false, if_true] at same
      omega
    · simp only [Bool.false_eq_true, if_false, if_true] at same
      omega
    · simpa using same
  exact ⟨sameUnits.1, Nat.le_antisymm (le_of_units_le (Nat.le_of_eq sameUnits.2))
    (le_of_units_le (Nat.le_of_eq sameUnits.2.symm))⟩

end Binary64

namespace Num

open Binary64

/-- The number is finite, and an integer has few enough digits to be written. -/
def IsWritable : Num → Prop
  | int value => value.natAbs < 10 ^ NumberError.digitLimit
  | real value => value.isFinite = true

instance : DecidablePred IsWritable
  | int value => inferInstanceAs (Decidable (value.natAbs < 10 ^ NumberError.digitLimit))
  | real value => inferInstanceAs (Decidable (value.isFinite = true))

/-- A number that equals an integer stands at its place. -/
theorem place?_of_equals
    {number : Num}
    {whole : Int}
    (same : number.equals (int whole) = true) :
    number.place? = some (.ofUnits (whole * unitsPerOne)) := by
  obtain ⟨place, ofNumber, ofWhole⟩ := equals_iff.mp same
  rw [ofNumber, ← ofWhole, place?_int]

/-- A whole number is written as the integer that it is. -/
theorem wireText_of_equals
    {number : Num}
    {whole : Int}
    (same : number.equals (int whole) = true) :
    number.wireText = toString whole := by
  cases number with
  | int value =>
      rw [equals, decide_eq_true_eq] at same
      rw [wireText, same]
  | real value =>
      rw [wireText, integral?_eq_some_iff.mpr same]

/-- A number that can be written is whole, or it is a finite number that is not. -/
theorem whole_or_fraction
    {number : Num}
    (isWritable : number.IsWritable) :
    (∃ whole, number.equals (int whole) = true) ∨
      ∃ value, number = real value ∧ value.isFinite = true ∧ value.integral? = none := by
  cases number with
  | int value =>
      exact Or.inl ⟨value, decide_eq_true rfl⟩
  | real value =>
      cases isWhole : value.integral? with
      | some whole =>
          exact Or.inl ⟨whole, integral?_eq_some_iff.mp isWhole⟩
      | none =>
          exact Or.inr ⟨value, rfl, isWritable, isWhole⟩

/-- A number that is not integral is sent as its own text. -/
theorem wireText_of_fraction
    {value : Binary64}
    (fraction : value.integral? = none) :
    (real value).wireText = value.text := by
  rw [wireText, fraction]

/-- No integer is written like a number that is not whole. -/
theorem text_ne_toString
    {value : Binary64}
    (isFinite : value.isFinite = true)
    (whole : Int) :
    value.text ≠ toString whole := by
  intro same
  have mark := mark_mem_text isFinite
  rw [same] at mark
  rcases mark with isPoint | isLetter
  · exact notMem_toString_int (by decide) (by decide) whole isPoint
  · exact notMem_toString_int (by decide) (by decide) whole isLetter

/-- No whole number stands where a number that is not whole does. -/
theorem place?_ne_of_fraction
    {value : Binary64}
    (fraction : value.integral? = none)
    {number : Num}
    {whole : Int}
    (isWhole : number.equals (int whole) = true) :
    (real value).place? ≠ number.place? := by
  intro samePlace
  rw [place?_of_equals isWhole] at samePlace
  have found := integral?_eq_some_iff.mpr (equals_iff.mpr ⟨_, samePlace, place?_int whole⟩)
  exact Option.some_ne_none whole (found.symm.trans fraction)

/-- Two numbers that are not whole are equal only if they are the same. -/
theorem eq_of_equals_of_fraction
    {first second : Binary64}
    (fraction : first.integral? = none)
    (firstFinite : first.isFinite = true)
    (secondFinite : second.isFinite = true)
    (same : (real first).equals (real second) = true) :
    first = second := by
  obtain ⟨s, a, rfl⟩ := exists_of_isFinite firstFinite
  obtain ⟨t, b, rfl⟩ := exists_of_isFinite secondFinite
  have samePlace := (equals_iff_of_places (place?_finite s a) (place?_finite t b)).mp same
  rw [Line.ofUnits_inj] at samePlace
  have notZero : units a ≠ 0 := by
    intro isZero
    have isWhole : (real (finite s a)).equals (int 0) = true := by
      rw [equals, decide_eq_true_eq, signedUnits, isZero, Int.zero_mul]
      cases s with
      | false | true =>
          rfl
    exact Option.some_ne_none 0 ((integral?_eq_some_iff.mpr isWhole).symm.trans fraction)
  obtain ⟨rfl, sameRank⟩ := signedUnits_inj notZero samePlace
  rw [Fin.ext sameRank]

/-- Numbers are written alike exactly if they are equal. -/
theorem wireText_eq_iff
    {first second : Num}
    (firstWritable : first.IsWritable)
    (secondWritable : second.IsWritable) :
    first.wireText = second.wireText ↔ first.equals second = true := by
  rcases whole_or_fraction firstWritable with ⟨m, isFirst⟩ | ⟨value, rfl, isFinite, isFraction⟩
  · rcases whole_or_fraction secondWritable with ⟨n, isSecond⟩ | ⟨other, rfl, otherFinite, isOther⟩
    · rw [wireText_of_equals isFirst, wireText_of_equals isSecond, toString_int_injective.eq_iff,
        equals_iff_of_places (place?_of_equals isFirst) (place?_of_equals isSecond), Line.ofUnits_inj,
        Int.mul_eq_mul_right_iff unitsPerOne_ne_zero]
    · rw [wireText_of_equals isFirst, wireText_of_fraction isOther, equals_iff]
      constructor
      · exact fun same => absurd same.symm (text_ne_toString otherFinite m)
      · rintro ⟨place, ofFirst, ofOther⟩
        exact absurd (ofOther.trans ofFirst.symm) (place?_ne_of_fraction isOther isFirst)
  · rcases whole_or_fraction secondWritable with ⟨n, isSecond⟩ | ⟨other, rfl, otherFinite, isOther⟩
    · rw [wireText_of_fraction isFraction, wireText_of_equals isSecond, equals_iff]
      constructor
      · exact fun same => absurd same (text_ne_toString isFinite n)
      · rintro ⟨place, ofFirst, ofSecond⟩
        exact absurd (ofFirst.trans ofSecond.symm) (place?_ne_of_fraction isFraction isSecond)
    · rw [wireText_of_fraction isFraction, wireText_of_fraction isOther]
      constructor
      · intro same
        have read := real?_text isFinite
        rw [same, real?_text otherFinite] at read
        obtain ⟨negative, rank, rfl⟩ := exists_of_isFinite isFinite
        rw [Except.ok.inj read, equals_iff_of_places (place?_finite _ _) (place?_finite _ _)]
      · intro same
        rw [eq_of_equals_of_fraction isFraction isFinite otherFinite same]

/-- The integer that a writable number is has few enough digits to be read. -/
theorem natAbs_lt_of_equals
    {number : Num}
    (isWritable : number.IsWritable)
    {whole : Int}
    (same : number.equals (int whole) = true) :
    whole.natAbs < 10 ^ NumberError.digitLimit := by
  cases number with
  | int value =>
      rw [equals, decide_eq_true_eq] at same
      exact same ▸ isWritable
  | real value =>
      obtain ⟨negative, rank, rfl⟩ := exists_of_isFinite isWritable
      rw [equals, decide_eq_true_eq] at same
      have sameSize := congrArg Int.natAbs same
      have magnitude : (signedUnits negative rank).natAbs = units rank := by
        rw [signedUnits]
        cases negative <;> simp
      rw [magnitude, Int.natAbs_mul, Int.natAbs_natCast] at sameSize
      obtain ⟨digits, isBound, few⟩ :
          ∃ digits, units finiteCount ≤ 10 ^ digits * unitsPerOne ∧ digits ≤ NumberError.digitLimit :=
        ⟨400, units_finiteCount_le, by decide⟩
      have bounded : whole.natAbs * unitsPerOne < 10 ^ digits * unitsPerOne := by
        rw [← sameSize]
        exact Nat.lt_of_lt_of_le (units_lt rank.isLt) isBound
      exact Nat.lt_of_lt_of_le (Nat.lt_of_mul_lt_mul_right bounded)
        (Nat.pow_le_pow_right (by decide) few)

/--
Numbers are written alike exactly if they are equal, whichever kinds they are of.  A whole number is
written with its sign and its decimal digits, without a point or an exponent, and is read as the integer
that it is.
-/
theorem wireText_isCanonical
    {first second : Num}
    (firstWritable : first.IsWritable)
    (secondWritable : second.IsWritable) :
    (first.wireText = second.wireText ↔ first.equals second = true) ∧
      ∀ whole : Int, first.equals (int whole) = true →
        first.wireText.toList =
            (if whole < 0 then ['-'] else []) ++ Nat.toDigits 10 whole.natAbs ∧
          '.' ∉ first.wireText.toList ∧
          'e' ∉ first.wireText.toList ∧
          Numeral.integer? first.wireText = .ok whole := by
  refine ⟨wireText_eq_iff firstWritable secondWritable, ?_⟩
  intro whole same
  rw [wireText_of_equals same]
  exact ⟨toList_toString_int whole, notMem_toString_int (by decide) (by decide) whole,
    notMem_toString_int (by decide) (by decide) whole,
    Numeral.integer?_toString_int (natAbs_lt_of_equals firstWritable same)⟩

/-- A large number is written in full, both zeros alike, and neighbours are told apart. -/
theorem wireText_isCanonical_large :
    (real (.ofDecimal true 1 23)).wireText = (int (-99999999999999991611392)).wireText ∧
      Numeral.integer? (real (.ofDecimal true 1 23)).wireText = .ok (-99999999999999991611392) ∧
      (real (.zero true)).wireText = (real (.zero false)).wireText ∧
      (real (.ofDecimal false 1 (-1))).wireText ≠
        (real (.ofDecimal false 10000000000000002 (-17))).wireText := by
  have large : (real (.ofDecimal true 1 23)).IsWritable := by decide +kernel
  have zero (negative : Bool) : (real (.zero negative)).IsWritable := rfl
  have tenth : (real (.ofDecimal false 1 (-1))).IsWritable := by decide +kernel
  have next : (real (.ofDecimal false 10000000000000002 (-17))).IsWritable := by decide +kernel
  have isWhole :
      (real (.ofDecimal true 1 23)).equals (int (-99999999999999991611392)) = true := by
    decide +kernel
  refine ⟨?_, ?_, ?_, ?_⟩
  · exact (wireText_isCanonical large (by decide +kernel)).1.mpr isWhole
  · exact ((wireText_isCanonical large large).2 _ isWhole).2.2.2
  · exact (wireText_isCanonical (zero true) (zero false)).1.mpr (by decide +kernel)
  · intro same
    exact absurd ((wireText_isCanonical tenth next).1.mp same) (by decide +kernel)

end Num

end SceneEditor
