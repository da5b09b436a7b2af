import SceneEditor.Json.Numeric
import SceneEditor.Proofs.Number.Numeral
import SceneEditor.Proofs.Number.Rounding

namespace SceneEditor.Json

open Attempt

/-!
# Values that are typed for numbers

A value that is typed for a number converts to one, or it is left out with a note that shows it.
Two kinds of value do neither.  An integer that no finite number is near to cannot be converted, and a
list or an object that holds an integer of too many digits cannot be shown.
-/

/-- The value is an integer of `2 ^ 1024 - 2 ^ 970` or more, with either sign. -/
def IsTooLarge (value : Json) : Prop :=
  ∃ integer, value = .number (.int integer) ∧ (2 ^ 54 - 1) * 2 ^ 970 ≤ integer.natAbs

/-- The value converts to a number, which may be an infinity. -/
def ConvertsTo (value : Json) (number : Binary64) : Prop :=
  value.toReal = .ok number ∧ number.isNan = false

/--
Why values that are typed together are neither taken nor left out: one of them cannot be converted, or
else one of them cannot be shown.
-/
inductive Fails (values : List Json) : NumberError → Prop where
  | tooLarge (large : ∃ value ∈ values, value.IsTooLarge) : Fails values .integerTooLarge
  | unwritable
      (small : ¬ ∃ value ∈ values, value.IsTooLarge)
      (unwritable : ∃ value ∈ values, value.isWritable = false) :
      Fails values .unwritableInteger

/-!
## Conversion
-/

/-- What can go wrong as a document is converted to a real number. -/
theorem toReal_error
    {value : Json}
    {error : NumberError}
    (fails : value.toReal = .error error) :
    (∃ number, value = .number number ∧ number.toReal = .error error) ∨
      (∃ kind, error = .notReal kind) ∨
      ∃ text, error = .unreadableReal text := by
  cases value with
  | number number =>
      exact Or.inl ⟨number, rfl, fails⟩
  | string text =>
      exact Or.inr (Or.inr ⟨text, Numeral.real?_error fails⟩)
  | bool value =>
      exact absurd fails (by simp [Json.toReal])
  | null | array | object =>
      exact Or.inr (Or.inl ⟨_, (Except.error.inj fails).symm⟩)

/-- Only an integer beyond all finite numbers is too large. -/
theorem toReal_eq_integerTooLarge_iff {value : Json} :
    value.toReal = .error .integerTooLarge ↔ value.IsTooLarge := by
  constructor
  · intro fails
    rcases toReal_error fails with ⟨number, rfl, tooLarge⟩ | ⟨kind, impossible⟩ | ⟨text, impossible⟩
    · obtain ⟨-, integer, negative, rfl, infinite⟩ := (number.toReal_failsIf _).mp tooLarge
      exact ⟨integer, rfl, (Binary64.ofInt_eq_infinity_iff.mp infinite).2⟩
    · exact NumberError.noConfusion impossible
    · exact NumberError.noConfusion impossible
  · rintro ⟨integer, rfl, large⟩
    have infinite := Binary64.ofInt_eq_infinity_iff.mpr ⟨rfl, large⟩
    exact (Num.toReal_failsIf _).fails ⟨integer, _, rfl, infinite⟩

/-- Only an integer that is too large is a failure where a number is typed. -/
theorem typed?_failsIf (value : Json) :
    FailsIf value.typed? .integerTooLarge value.IsTooLarge := by
  intro error
  rw [← toReal_eq_integerTooLarge_iff, typed?]
  split
  · next real read =>
    simp [read]
  · next read =>
    simp [read, eq_comm]
  · next failure other read =>
    simp [read, show failure ≠ .integerTooLarge from other]

/-- A document is taken as the number that it converts to. -/
theorem typed?_eq_some_iff
    {value : Json}
    {number : Binary64} :
    value.typed? = .ok (some number) ↔ value.ConvertsTo number := by
  rw [ConvertsTo, typed?]
  split
  · next real read =>
    cases isNan : real.isNan with
    | true =>
        simp only [if_true, read, Except.ok.injEq, reduceCtorEq, false_iff, not_and]
        rintro rfl
        simp [isNan]
    | false =>
        simp only [Bool.false_eq_true, if_false, read, Except.ok.injEq, Option.some.injEq]
        constructor
        · rintro rfl
          exact ⟨rfl, isNan⟩
        · exact And.left
  · next read =>
    simp [read]
  · next failure other read =>
    simp [read]

/-!
## Writing
-/

/-- A document has a text unless an integer in it has too many digits. -/
theorem toText_failsIf (value : Json) :
    FailsIf value.toText .unwritableInteger (value.isWritable = false) := by
  rw [toText]
  split
  · next writable =>
    exact failsIf_of_ok (by simp [writable])
  · next unwritable =>
    exact failsIf_of_error (Bool.eq_false_iff.mpr unwritable)

/-- A document is discarded with its text in the log, which it may not have. -/
theorem discarded_failsIf
    {α : Type}
    (value : Json) :
    FailsIf (value.discarded : Except NumberError (Option α)) .unwritableInteger
      (value.isWritable = false) :=
  value.toText_failsIf.map fun _ => none

/-- A value that is left out gives nothing. -/
theorem eq_none_of_discarded
    {value : Json}
    {result? : Option α}
    (discarded : value.discarded = .ok result?) :
    result? = none := by
  obtain ⟨text, -, rfl⟩ := map_eq_ok_iff.mp discarded
  rfl

/-- A number that is not too large has few digits. -/
theorem ConvertsTo.isWritable
    {value : Json}
    {number : Binary64}
    (converts : value.ConvertsTo number) :
    value.isWritable = true := by
  cases value with
  | number held =>
      cases held with
      | real real =>
          rfl
      | int integer =>
          have small : integer.natAbs < (2 ^ 54 - 1) * 2 ^ 970 := by
            rw [← Num.succeeds_int_iff]
            exact ⟨number, converts.1⟩
          have few : (2 ^ 54 - 1) * 2 ^ 970 ≤ Nat.pow 10 NumberError.digitLimit := by
            decide +kernel
          rw [Json.isWritable, decide_eq_true_eq]
          exact Nat.lt_of_lt_of_le small few
  | null | array | object =>
      exact absurd converts.1 (by simp [toReal])
  | bool value =>
      rfl
  | string text =>
      rfl

/-!
## Values that are typed together
-/

/-- With an integer that is too large among the values, nothing else fails. -/
theorem fails_iff_of_large
    {values : List Json}
    {error : NumberError}
    (large : ∃ value ∈ values, value.IsTooLarge) :
    Fails values error ↔ error = .integerTooLarge := by
  constructor
  · rintro (⟨-⟩ | ⟨small, -⟩)
    · rfl
    · exact absurd large small
  · rintro rfl
    exact .tooLarge large

/-- Without an integer that is too large, a value without a text is what fails. -/
theorem fails_iff_of_small
    {values : List Json}
    {error : NumberError}
    (small : ¬ ∃ value ∈ values, value.IsTooLarge) :
    Fails values error ↔
      error = .unwritableInteger ∧ ∃ value ∈ values, value.isWritable = false := by
  constructor
  · rintro (⟨large⟩ | ⟨-, unwritable⟩)
    · exact absurd large small
    · exact ⟨rfl, unwritable⟩
  · rintro ⟨rfl, unwritable⟩
    exact .unwritable small unwritable

/-- Values all of which convert are taken. -/
theorem not_fails_of_converts
    {values : List Json}
    (converts : ∀ value ∈ values, ∃ number, value.ConvertsTo number)
    (error : NumberError) :
    ¬ Fails values error := by
  rintro (⟨⟨value, member, large⟩⟩ | ⟨-, ⟨value, member, unwritable⟩⟩)
  · obtain ⟨number, typed⟩ := converts value member
    have fails := toReal_eq_integerTooLarge_iff.mpr large
    rw [typed.1] at fails
    exact absurd fails (by simp)
  · obtain ⟨number, typed⟩ := converts value member
    rw [typed.isWritable] at unwritable
    exact Bool.noConfusion unwritable

end SceneEditor.Json
