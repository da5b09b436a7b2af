import Mathlib.Order.BoundedOrder.Lattice
import SceneEditor.Proofs.Number.Agreement

namespace SceneEditor.Num

/-!
# The order of the numbers

Integers and floating-point numbers are compared exactly.  So all numbers stand on one line, the whole
multiples of a unit between the two infinities, and comparing them compares their places.  What is not
a number stands nowhere.
-/

/-- The multiples of a unit between two ends. -/
inductive Line where
  | bottom
  | ofUnits (units : Int)
  | top
  deriving DecidableEq

namespace Line

/-- The first place is not after the second one. -/
def le : Line → Line → Bool
  | bottom, _ => true
  | ofUnits first, ofUnits second => decide (first ≤ second)
  | _, top => true
  | _, _ => false

instance : LinearOrder Line where
  le first second := first.le second = true
  le_refl place := by
    cases place <;> simp [le]
  le_trans first second third := by
    cases first <;> cases second <;> cases third <;> simp [le]
    omega
  le_antisymm first second := by
    cases first <;> cases second <;> simp [le]
    omega
  le_total first second := by
    cases first <;> cases second <;> simp [le]
    omega
  toDecidableLE first second := inferInstanceAs (Decidable (first.le second = true))

instance : BoundedOrder Line where
  top := top
  le_top place := by
    cases place <;> rfl
  bot := bottom
  bot_le place := by
    cases place <;> rfl

@[simp] theorem ofUnits_le_ofUnits
    {first second : Int} :
    ofUnits first ≤ ofUnits second ↔ first ≤ second :=
  decide_eq_true_iff

@[simp] theorem ofUnits_lt_ofUnits
    {first second : Int} :
    ofUnits first < ofUnits second ↔ first < second := by
  rw [← not_le, ofUnits_le_ofUnits, not_le]

@[simp] theorem ofUnits_inj
    {first second : Int} :
    ofUnits first = ofUnits second ↔ first = second :=
  Iff.of_eq (ofUnits.injEq first second)

@[simp] theorem ofUnits_ne_bot (units : Int) :
    ofUnits units ≠ ⊥ :=
  nofun

@[simp] theorem ofUnits_ne_top (units : Int) :
    ofUnits units ≠ ⊤ :=
  nofun

end Line

/-- What lies between a finite number and another point is no end of the line. -/
theorem Line.exists_ofUnits
    {units : Int}
    {place limit : Line}
    (notBelow : .ofUnits units ≤ place)
    (below : place < limit) :
    ∃ between, place = .ofUnits between ∧ units ≤ between := by
  cases place with
  | bottom =>
      exact absurd (le_bot_iff.mp notBelow) (ofUnits_ne_bot units)
  | ofUnits between =>
      exact ⟨between, rfl, ofUnits_le_ofUnits.mp notBelow⟩
  | top =>
      exact absurd below not_top_lt

/-- A place between two places of units has units too. -/
theorem Line.exists_ofUnits_between
    {low high : Int}
    {place : Line}
    (notBelow : .ofUnits low ≤ place)
    (notAbove : place ≤ .ofUnits high) :
    ∃ between, place = .ofUnits between ∧ low ≤ between ∧ between ≤ high := by
  have below : place < ⊤ := lt_of_le_of_lt notAbove (lt_top_iff_ne_top.mpr (ofUnits_ne_top high))
  obtain ⟨between, rfl, low⟩ := exists_ofUnits notBelow below
  exact ⟨between, rfl, low, ofUnits_le_ofUnits.mp notAbove⟩

/-- Where a mark stands on the line, if it is a number. -/
def Mark.place? : Mark → Option Line
  | undefined => none
  | infinite true => some ⊥
  | infinite false => some ⊤
  | finite units => some (.ofUnits units)

/-- Where a number stands. -/
def place? (number : Num) : Option Line :=
  number.mark.place?

/-- A value is a number exactly if it has a place. -/
theorem isNan_eq_false_iff
    {number : Num} :
    number.isNan = false ↔ ∃ place, number.place? = some place := by
  rcases number with value | _ | negative | ⟨negative, rank⟩
  · exact ⟨fun _ => ⟨_, rfl⟩, fun _ => rfl⟩
  · simp [isNan, Binary64.isNan, place?, mark, Mark.place?]
  · cases negative <;> simp [isNan, Binary64.isNan, place?, mark, Mark.place?]
  · simp [isNan, Binary64.isNan, place?, mark, Mark.place?]

/-- Only the positive infinity stands at the upper end. -/
theorem eq_infinity_of_place
    {value : Binary64}
    (placed : (real value).place? = some ⊤) :
    value = .infinity false := by
  rcases value with _ | (_ | _) | ⟨negative, rank⟩
  · exact nomatch placed
  · rfl
  · exact nomatch placed
  · exact absurd (Option.some.inj placed) (Line.ofUnits_ne_top _)

/-- An integer stands at its units. -/
theorem place?_int (value : Int) :
    (int value).place? = some (.ofUnits (value * unitsPerOne)) :=
  rfl

/-- A finite number stands at its signed units. -/
theorem place?_finite
    (negative : Bool)
    (rank : Fin finiteCount) :
    (real (.finite negative rank)).place? = some (.ofUnits (Binary64.signedUnits negative rank)) :=
  rfl

theorem place?_zero :
    (0 : Num).place? = some (.ofUnits 0) := by
  rw [← Int.zero_mul (unitsPerOne : Int)]
  exact place?_int 0

theorem place?_real_zero :
    (real 0).place? = some (.ofUnits 0) := by
  decide +kernel

/-- A finite number stands between the positions that stand for the infinities. -/
theorem signedUnits_bounds
    (negative : Bool)
    (rank : Fin finiteCount) :
    Binary64.signedUnits true finiteCount < Binary64.signedUnits negative rank ∧
      Binary64.signedUnits negative rank < Binary64.signedUnits false finiteCount := by
  have below : Binary64.units rank < Binary64.units finiteCount := Binary64.units_lt rank.isLt
  cases negative
  · simp only [Binary64.signedUnits, if_true, Bool.false_eq_true, if_false]
    omega
  · simp only [Binary64.signedUnits, if_true, Bool.false_eq_true, if_false]
    omega

/-- Real numbers are ordered by their places. -/
theorem real_lt_iff
    {left right : Binary64} :
    left.lt right = true ↔
      ∃ l r, (real left).place? = some l ∧ (real right).place? = some r ∧ l < r := by
  have above (negative : Bool) (rank : Fin finiteCount) := (signedUnits_bounds negative rank).1
  have below (negative : Bool) (rank : Fin finiteCount) := (signedUnits_bounds negative rank).2
  have ends : Binary64.signedUnits true finiteCount < Binary64.signedUnits false finiteCount :=
    Int.lt_trans (above true ⟨0, by decide⟩) (below true ⟨0, by decide⟩)
  rcases left with _ | (_ | _) | ⟨s, a⟩ <;> rcases right with _ | (_ | _) | ⟨t, b⟩
  all_goals
    simp [Binary64.lt, Binary64.position?, place?, mark, Mark.place?, ends, Int.le_of_lt ends,
      above, below, Int.le_of_lt (above _ _), Int.le_of_lt (below _ _), bot_lt_iff_ne_bot,
      lt_top_iff_ne_top]

/-- Where both places are known, the ones that there are have to be these. -/
theorem exists_places_iff
    {left right : Num}
    {l r : Line}
    (ofLeft : left.place? = some l)
    (ofRight : right.place? = some r) :
    (∃ l r, left.place? = some l ∧ right.place? = some r ∧ l < r) ↔ l < r := by
  simp [ofLeft, ofRight]

/-- An integer is compared with a floating-point number by their places. -/
theorem int_lt_real_iff
    {left : Int}
    {right : Binary64} :
    (int left).lt (real right) = true ↔
      ∃ l r, (int left).place? = some l ∧ (real right).place? = some r ∧ l < r := by
  rcases right with _ | (_ | _) | ⟨negative, rank⟩
  · exact ⟨fun never => absurd never Bool.false_ne_true, fun ⟨_, _, _, never, _⟩ => nomatch never⟩
  · rw [exists_places_iff (place?_int left) rfl]
    exact ⟨fun _ => lt_top_iff_ne_top.mpr (Line.ofUnits_ne_top _), fun _ => rfl⟩
  · rw [exists_places_iff (place?_int left) rfl]
    exact ⟨fun never => absurd never Bool.false_ne_true, fun below => absurd below not_lt_bot⟩
  · rw [exists_places_iff (place?_int left) (place?_finite negative rank), Line.ofUnits_lt_ofUnits]
    exact decide_eq_true_iff

/-- A real number is below an integer exactly if its place is. -/
theorem real_lt_int_iff
    {left : Binary64}
    {right : Int} :
    (real left).lt (int right) = true ↔
      ∃ l r, (real left).place? = some l ∧ (int right).place? = some r ∧ l < r := by
  rcases left with _ | (_ | _) | ⟨negative, rank⟩
  · exact ⟨fun never => absurd never Bool.false_ne_true, fun ⟨_, _, never, _, _⟩ => nomatch never⟩
  · rw [exists_places_iff rfl (place?_int right)]
    exact ⟨fun never => absurd never Bool.false_ne_true, fun below => absurd below not_top_lt⟩
  · rw [exists_places_iff rfl (place?_int right)]
    exact ⟨fun _ => bot_lt_iff_ne_bot.mpr (Line.ofUnits_ne_bot _), fun _ => rfl⟩
  · rw [exists_places_iff (place?_finite negative rank) (place?_int right), Line.ofUnits_lt_ofUnits]
    exact decide_eq_true_iff

/-- Comparing two numbers compares their places. -/
theorem lt_iff
    {left right : Num} :
    left.lt right = true ↔
      ∃ l r, left.place? = some l ∧ right.place? = some r ∧ l < r := by
  cases left with
  | int left =>
      cases right with
      | int right =>
          have positive : 0 < (unitsPerOne : Int) := Int.natCast_pos.mpr unitsPerOne_pos
          rw [exists_places_iff (place?_int left) (place?_int right), Line.ofUnits_lt_ofUnits,
            Int.mul_lt_mul_right positive]
          exact decide_eq_true_iff
      | real right =>
          exact int_lt_real_iff
  | real left =>
      cases right with
      | int right =>
          exact real_lt_int_iff
      | real right =>
          exact real_lt_iff

/-- Marks at the same place are equal. -/
theorem Mark.place?_inj
    {first second : Mark} :
    first.place? = second.place? ↔ first = second := by
  rcases first with _ | (_ | _) | u <;> rcases second with _ | (_ | _) | v
  all_goals
    simp [Mark.place?, (Line.ofUnits_ne_bot _).symm, (Line.ofUnits_ne_top _).symm]

/-- Numbers are equal exactly if they stand at one place. -/
theorem equals_iff
    {left right : Num} :
    left.equals right = true ↔ ∃ place, left.place? = some place ∧ right.place? = some place := by
  constructor
  · intro same
    have agree : left.agrees right = true := by
      rw [agrees, same]
      rfl
    have notNan : left.isNan = false := by
      rcases left with _ | _ | _ | _
      · rfl
      · exact absurd same (by cases right <;> exact Bool.false_ne_true)
      · rfl
      · rfl
    obtain ⟨place, ofLeft⟩ := isNan_eq_false_iff.mp notNan
    exact ⟨place, ofLeft, (Mark.place?_inj.mpr (agrees_iff.mp agree)).symm.trans ofLeft⟩
  · rintro ⟨place, ofLeft, ofRight⟩
    have sameMark := Mark.place?_inj.mp (ofLeft.trans ofRight.symm)
    have agree : left.agrees right = true := agrees_iff.mpr sameMark
    rw [agrees, isNan_eq_false_iff.mpr ⟨place, ofLeft⟩, Bool.false_and, Bool.or_false] at agree
    exact agree

/-- Numbers are ordered by their places. -/
theorem le_iff
    {left right : Num} :
    left.le right = true ↔
      ∃ l r, left.place? = some l ∧ right.place? = some r ∧ l ≤ r := by
  rw [le, Bool.or_eq_true, lt_iff, equals_iff]
  constructor
  · rintro (⟨l, r, ofLeft, ofRight, below⟩ | ⟨place, ofLeft, ofRight⟩)
    · exact ⟨l, r, ofLeft, ofRight, le_of_lt below⟩
    · exact ⟨place, place, ofLeft, ofRight, le_refl place⟩
  · rintro ⟨l, r, ofLeft, ofRight, notAbove⟩
    rcases lt_or_eq_of_le notAbove with below | rfl
    · exact Or.inl ⟨l, r, ofLeft, ofRight, below⟩
    · exact Or.inr ⟨l, ofLeft, ofRight⟩

/-- The order goes through. -/
theorem le_of_le_of_le
    {first second third : Num}
    (lower : first.le second = true)
    (upper : second.le third = true) :
    first.le third = true := by
  obtain ⟨low, middle, ofFirst, ofSecond, lowLe⟩ := le_iff.mp lower
  obtain ⟨middle', high, ofSecond', ofThird, leHigh⟩ := le_iff.mp upper
  obtain rfl := Option.some.inj (ofSecond.symm.trans ofSecond')
  exact le_iff.mpr ⟨low, high, ofFirst, ofThird, le_trans lowLe leHigh⟩

section

variable {left right : Num} {l r : Line}

theorem lt_iff_of_places
    (ofLeft : left.place? = some l)
    (ofRight : right.place? = some r) :
    left.lt right = true ↔ l < r :=
  lt_iff.trans (exists_places_iff ofLeft ofRight)

/-- Numbers with places are equal exactly if these are. -/
theorem equals_iff_of_places
    (ofLeft : left.place? = some l)
    (ofRight : right.place? = some r) :
    left.equals right = true ↔ l = r := by
  rw [equals_iff, ofLeft, ofRight]
  constructor
  · rintro ⟨place, isLeft, isRight⟩
    exact (Option.some.inj isLeft).trans (Option.some.inj isRight).symm
  · rintro rfl
    exact ⟨l, rfl, rfl⟩

theorem le_iff_of_places
    (ofLeft : left.place? = some l)
    (ofRight : right.place? = some r) :
    left.le right = true ↔ l ≤ r := by
  simp [le_iff, ofLeft, ofRight]

theorem place?_max
    (ofLeft : left.place? = some l)
    (ofRight : right.place? = some r) :
    (left.max right).place? = some (l ⊔ r) := by
  rw [max]
  split
  · next above =>
    rw [lt_iff_of_places ofLeft ofRight] at above
    rw [ofRight, sup_of_le_right (le_of_lt above)]
  · next notAbove =>
    rw [lt_iff_of_places ofLeft ofRight, not_lt] at notAbove
    rw [ofLeft, sup_of_le_left notAbove]

theorem place?_min
    (ofLeft : left.place? = some l)
    (ofRight : right.place? = some r) :
    (left.min right).place? = some (l ⊓ r) := by
  rw [min]
  split
  · next below =>
    rw [lt_iff_of_places ofRight ofLeft] at below
    rw [ofRight, inf_of_le_right (le_of_lt below)]
  · next notBelow =>
    rw [lt_iff_of_places ofRight ofLeft, not_lt] at notBelow
    rw [ofLeft, inf_of_le_left notBelow]

end

end SceneEditor.Num
