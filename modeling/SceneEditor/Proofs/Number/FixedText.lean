import SceneEditor.Number.Decimal
import SceneEditor.Proofs.Number.Nearest
import SceneEditor.Proofs.Number.Numeral

namespace SceneEditor

/-!
# Texts with two places

A decimal with two places is read exactly, as a number of hundredths.  The text of a finite number is
read as the hundredths that are nearest to it; other numbers have no such text.
-/

namespace Numeral

/-- Read a decimal with two places, as a number of hundredths. -/
def hundredths? (text : String) : Option Int :=
  let (negative, body) := splitSign text.toList
  let (whole, afterWhole) := takeDigits body
  let (places, after) := takeFraction afterWhole
  if whole.isEmpty || places.length != 2 || !after.isEmpty then none
  else
    let count : Int := (valueOf (whole ++ places) : Nat)
    some (if negative then -count else count)

/-- The digits of a number that is written with two places: at least one in front of the point. -/
theorem placed_eq (count : Nat) :
    ∃ first whole places,
      Binary64.placed 2 count = first :: (whole ++ '.' :: places) ∧
        (∀ c ∈ first :: (whole ++ places), c.isDigit = true) ∧
        places.length = 2 ∧
        valueOf (valuesOf (first :: (whole ++ places))) = count := by
  let written := Nat.toDigits 10 count
  let padded := List.replicate (3 - written.length) '0' ++ written
  have isLong : 3 ≤ padded.length := by
    simp only [padded, List.length_append, List.length_replicate]
    omega
  have areDigits : ∀ c ∈ padded, c.isDigit = true := isDigit_padded _ count
  have isValue : valueOf (valuesOf padded) = count := valueOf_padded _ count
  have cut : padded.take (padded.length - 2) ++ padded.drop (padded.length - 2) = padded :=
    List.take_append_drop _ _
  obtain ⟨first, whole, isWhole⟩ : ∃ first whole, padded.take (padded.length - 2) = first :: whole := by
    apply List.exists_cons_of_ne_nil
    intro nothing
    have none := congrArg List.length nothing
    rw [List.length_take, List.length_nil] at none
    omega
  rw [isWhole, List.cons_append] at cut
  refine ⟨first, whole, padded.drop (padded.length - 2), ?_, ?_, ?_, ?_⟩
  · change padded.take (padded.length - 2) ++ '.' :: padded.drop (padded.length - 2) = _
    rw [isWhole]
    rfl
  · rw [cut]
    exact areDigits
  · rw [List.length_drop]
    omega
  · rw [cut]
    exact isValue

/-- A number of hundredths that is written with two places is read as it is. -/
theorem hundredths?_placed
    (negative : Bool)
    (count : Nat) :
    hundredths? (String.ofList ((if negative then ['-'] else []) ++ Binary64.placed 2 count)) =
      some (if negative then -(count : Int) else count) := by
  obtain ⟨first, whole, places, shape, areDigits, isLong, isValue⟩ := placed_eq count
  have ofFirst := areDigits first List.mem_cons_self
  have ofWhole : ∀ c ∈ first :: whole, c.isDigit = true := fun c member =>
    areDigits c (List.mem_append_left places member)
  have ofPlaces : ∀ c ∈ places, c.isDigit = true := fun c member =>
    areDigits c (List.mem_append_right (first :: whole) member)
  have signed : splitSign ((if negative then ['-'] else []) ++ first :: (whole ++ '.' :: places)) =
      (negative, first :: (whole ++ '.' :: places)) := by
    cases negative with
    | true =>
        rfl
    | false =>
        exact splitSign_cons_of_isDigit ofFirst _
  have stops : Stops ('.' :: places) := by
    intro c isPoint
    obtain rfl := Option.some.inj isPoint
    decide
  have taken := takeDigits_append ofWhole stops
  rw [List.cons_append] at taken
  rw [hundredths?, String.toList_ofList, shape, signed]
  simp only [taken, takeFraction, takeDigits_of_isDigit ofPlaces, ← valuesOf_append,
    List.cons_append, isValue]
  simp [isLong]

end Numeral

namespace Binary64

open Numeral

/-- The text of a finite number is read as the hundredths nearest to it. -/
theorem hundredths?_fixedText
    (negative : Bool)
    (rank : Fin finiteCount) :
    hundredths? ((finite negative rank).fixedText 2) =
      some (if negative then -(roundHalfEven (units rank * 100) unitsPerOne : Int)
        else roundHalfEven (units rank * 100) unitsPerOne) := by
  have read := hundredths?_placed negative (roundHalfEven (units rank * 100) unitsPerOne)
  cases negative with
  | false =>
      exact read
  | true =>
      exact read

/-- A number that is not negative is written as the hundredths nearest to it. -/
theorem hundredths?_of_place
    {value : Binary64}
    {count : Nat}
    (placed : (Num.real value).place? = some (.ofUnits count)) :
    hundredths? (value.fixedText 2) = some (roundHalfEven (count * 100) unitsPerOne : Nat) := by
  obtain ⟨negative, rank, rfl, isCount⟩ := Num.exists_finite_of_place placed
  rw [hundredths?_fixedText]
  cases negative with
  | false =>
      obtain rfl : units rank = count := Int.ofNat_inj.mp isCount
      rfl
  | true =>
      simp only [signedUnits, if_true] at isCount
      obtain ⟨ofRank, rfl⟩ : units rank = 0 ∧ count = 0 := by omega
      rw [ofRank, Nat.zero_mul, roundHalfEven_zero]
      rfl

/-- An infinity has no hundredths. -/
theorem hundredths?_infinity (negative : Bool) :
    hundredths? ((infinity negative).fixedText 2) = none := by
  cases negative with
  | false | true =>
      decide

/-!
## Texts of times that are a tenth apart
-/

/--
A middle between two hundredths lies between the second number and what is a tenth above the first one.
The middle itself counts to its even neighbour.
-/
def IsPartedFrom (first second : Binary64) : Prop :=
  ∃ low high : Nat,
    first.position? = some (low : Int) ∧ second.position? = some (high : Int) ∧
      ∃ hundredths,
        IsBeyondMiddle hundredths (low * 100 + 10 * unitsPerOne) unitsPerOne ∧
          ¬IsBeyondMiddle hundredths (high * 100) unitsPerOne

/-- A number with a place of units on the line has these units as its position. -/
theorem position?_of_place
    {value : Binary64}
    {units : Int}
    (placed : (Num.real value).place? = some (.ofUnits units)) :
    value.position? = some units := by
  obtain ⟨negative, rank, rfl, rfl⟩ := Num.exists_finite_of_place placed
  rfl

section

variable {first second : Binary64} {low high : Nat}

/-- The texts of two numbers are less than a tenth apart exactly if a middle parts the numbers. -/
theorem isPartedFrom_iff
    (ofFirst : (Num.real first).place? = some (.ofUnits low))
    (ofSecond : (Num.real second).place? = some (.ofUnits high)) :
    first.IsPartedFrom second ↔
      roundHalfEven (high * 100) unitsPerOne < roundHalfEven (low * 100) unitsPerOne + 10 := by
  have even : 10 % 2 = 0 := rfl
  rw [← roundHalfEven_add_mul even (low * 100) unitsPerOne_pos, roundHalfEven_lt_iff _ _ unitsPerOne_pos,
    IsPartedFrom, position?_of_place ofFirst, position?_of_place ofSecond]
  constructor
  · rintro ⟨low', high', sameLow, sameHigh, parted⟩
    obtain rfl := Int.ofNat_inj.mp (Option.some.inj sameLow)
    obtain rfl := Int.ofNat_inj.mp (Option.some.inj sameHigh)
    exact parted
  · exact fun parted => ⟨low, high, rfl, rfl, parted⟩

end

end Binary64

end SceneEditor
