import Mathlib.Algebra.Group.Nat.Defs
import SceneEditor.Number.Numeral
import SceneEditor.Proofs.Text.Cut

namespace SceneEditor.Numeral

/-!
# Reading what was written

The decimal digits of a natural number are read as that number, as long as they are no more than
a numeral may have.
-/

/-- A plain digit has its own value. -/
theorem digitValue?_of_isDigit
    {c : Char}
    (digit : c.isDigit = true) :
    Text.digitValue? c = some (c.toNat - '0'.toNat) := by
  have bounds : 0x30 ≤ c.toNat ∧ c.toNat ≤ 0x30 + 9 := by
    simp only [Char.isDigit, Bool.and_eq_true, decide_eq_true_eq, ge_iff_le] at digit
    exact digit
  simp [Text.digitValue?, Text.digitZeros, bounds]

/-- The values of digits. -/
def valuesOf (digits : List Char) : List Nat :=
  digits.map fun c => c.toNat - '0'.toNat

@[simp] theorem length_valuesOf (digits : List Char) :
    (valuesOf digits).length = digits.length :=
  List.length_map _

@[simp] theorem valuesOf_eq_nil_iff {digits : List Char} :
    valuesOf digits = [] ↔ digits = [] :=
  List.map_eq_nil_iff

theorem valuesOf_append (digits others : List Char) :
    valuesOf (digits ++ others) = valuesOf digits ++ valuesOf others :=
  List.map_append

/-- The text does not go on with a digit or with an underscore. -/
def Stops (rest : List Char) : Prop :=
  ∀ c, rest.head? = some c → Text.digitValue? c = none ∧ c ≠ '_'

theorem stops_nil :
    Stops [] :=
  fun _ never => nomatch never

/-- Digits are read up to where they stop. -/
theorem moreDigits_append
    {digits rest : List Char}
    (areDigits : ∀ c ∈ digits, c.isDigit = true)
    (stops : Stops rest) :
    moreDigits (digits ++ rest) = (valuesOf digits, rest) := by
  induction digits with
  | nil =>
      cases rest with
      | nil =>
          rfl
      | cons c rest =>
          obtain ⟨noDigit, notUnderscore⟩ := stops c rfl
          rw [List.nil_append, moreDigits.eq_def]
          simp [notUnderscore, noDigit, valuesOf]
  | cons c digits inductionHypothesis =>
      have digit : c.isDigit = true :=
        areDigits c List.mem_cons_self
      have notUnderscore : c ≠ '_' := by
        rintro rfl
        exact absurd digit (by decide)
      have behind :=
        inductionHypothesis fun other member =>
          areDigits other (List.mem_cons_of_mem c member)
      rw [List.cons_append, moreDigits.eq_def]
      simp [notUnderscore, digitValue?_of_isDigit digit, behind, valuesOf]

/-- Digits are taken up to where they stop. -/
theorem takeDigits_append
    {digits rest : List Char}
    (areDigits : ∀ c ∈ digits, c.isDigit = true)
    (stops : Stops rest) :
    takeDigits (digits ++ rest) = (valuesOf digits, rest) := by
  cases digits with
  | nil =>
      cases rest with
      | nil =>
          rfl
      | cons c rest =>
          simp [takeDigits, (stops c rfl).1, valuesOf]
  | cons c digits =>
      have behind := moreDigits_append
        (fun other member => areDigits other (List.mem_cons_of_mem c member)) stops
      simp [takeDigits, digitValue?_of_isDigit (areDigits c List.mem_cons_self), behind, valuesOf]

/-- A text of digits is taken whole. -/
theorem takeDigits_of_isDigit
    {digits : List Char}
    (areDigits : ∀ c ∈ digits, c.isDigit = true) :
    takeDigits digits = (valuesOf digits, []) := by
  have taken := takeDigits_append areDigits stops_nil
  rwa [List.append_nil] at taken

/-- Digits write a number below the power of ten that has one digit more. -/
theorem valueOf_lt
    {digits : List Nat}
    (small : ∀ digit ∈ digits, digit < 10) :
    valueOf digits < 10 ^ digits.length := by
  have bounded (start : Nat) :
      digits.foldl (fun value digit => value * 10 + digit) start <
        (start + 1) * 10 ^ digits.length := by
    induction digits generalizing start with
    | nil =>
        simp
    | cons digit rest inductionHypothesis =>
        have digitSmall := small digit List.mem_cons_self
        have restBounded :=
          inductionHypothesis
            (fun other member => small other (List.mem_cons_of_mem digit member))
            (start * 10 + digit)
        have headBounded : start * 10 + digit + 1 ≤ (start + 1) * 10 := by omega
        calc (digit :: rest).foldl (fun value digit => value * 10 + digit) start
            < (start * 10 + digit + 1) * 10 ^ rest.length := restBounded
          _ ≤ (start + 1) * 10 * 10 ^ rest.length := Nat.mul_le_mul_right _ headBounded
          _ = (start + 1) * 10 ^ (digit :: rest).length := by
            rw [Nat.mul_assoc, List.length_cons, Nat.pow_succ']
  simpa [valueOf] using bounded 0

/-- The value of plain digits is the number that they write. -/
theorem valueOf_digits (digits : List Char) :
    valueOf (valuesOf digits) = Nat.ofDigitChars 10 digits 0 := by
  simp only [valueOf, valuesOf, List.foldl_map, Nat.ofDigitChars]
  congr 1
  funext value c
  rw [Nat.mul_comm]

/-- Zeros in front of digits do not count. -/
theorem valueOf_zeros_append
    (count : Nat)
    (digits : List Char) :
    valueOf (valuesOf (List.replicate count '0' ++ digits)) = valueOf (valuesOf digits) := by
  induction count with
  | zero =>
      rfl
  | succ count inductionHypothesis =>
      rw [← inductionHypothesis]
      rfl

/-- Zeros behind digits count as powers of ten. -/
theorem valueOf_append_zeros
    (digits : List Char)
    (count : Nat) :
    valueOf (valuesOf (digits ++ List.replicate count '0')) =
      valueOf (valuesOf digits) * 10 ^ count := by
  induction count with
  | zero =>
      simp
  | succ count inductionHypothesis =>
      have lastZero (values : List Nat) : valueOf (values ++ [0]) = valueOf values * 10 := by
        simp [valueOf]
      rw [List.replicate_succ', ← List.append_assoc, valuesOf_append]
      change valueOf (_ ++ [0]) = _
      rw [lastZero, inductionHypothesis, Nat.mul_assoc, Nat.pow_succ]

theorem isDigit_zeros (count : Nat) :
    ∀ c ∈ List.replicate count '0', c.isDigit = true := by
  intro c member
  rw [(List.mem_replicate.mp member).2]
  decide

/-- A natural number with zeros in front of it is written with digits only. -/
theorem isDigit_padded (count number : Nat) :
    ∀ c ∈ List.replicate count '0' ++ Nat.toDigits 10 number, c.isDigit = true :=
  List.forall_mem_append.mpr ⟨isDigit_zeros count, fun _ member =>
    Nat.isDigit_of_mem_toDigits (by decide) (by decide) member⟩

/-- Zeros in front of the digits of a number keep its value. -/
theorem valueOf_padded (count number : Nat) :
    valueOf (valuesOf (List.replicate count '0' ++ Nat.toDigits 10 number)) = number := by
  rw [valueOf_zeros_append, valueOf_digits, Nat.ofDigitChars_ten_toDigits]

theorem isOuterBlank_of_isDigit
    {c : Char}
    (digit : c.isDigit = true) :
    isOuterBlank c = false := by
  simp only [Char.isDigit, Bool.and_eq_true, decide_eq_true_eq, ge_iff_le] at digit
  have bounds : 0x30 ≤ c.toNat ∧ c.toNat ≤ 0x39 := digit
  have notSpace : c ≠ ' ' := by
    rintro rfl
    exact absurd bounds (by decide)
  have notControl : ¬ (9 ≤ c.toNat ∧ c.toNat ≤ 13) := by omega
  rw [isOuterBlank, if_pos (by omega)]
  simpa [notSpace] using notControl

theorem splitSign_cons_of_isDigit
    {c : Char}
    (digit : c.isDigit = true)
    (rest : List Char) :
    splitSign (c :: rest) = (false, c :: rest) := by
  have notMinus : c ≠ '-' := by
    rintro rfl
    exact absurd digit (by decide)
  have notPlus : c ≠ '+' := by
    rintro rfl
    exact absurd digit (by decide)
  simp [splitSign, notMinus, notPlus]

/-- Digits have no sign in front. -/
theorem splitSign_of_isDigit
    {digits : List Char}
    (areDigits : ∀ c ∈ digits, c.isDigit = true) :
    splitSign digits = (false, digits) := by
  cases digits with
  | nil =>
      rfl
  | cons c digits =>
      exact splitSign_cons_of_isDigit (areDigits c List.mem_cons_self) digits

/-- The decimal digits of a natural number, behind a sign or none, are read as that number. -/
theorem integer?_digits
    (negative : Bool)
    (sign : List Char)
    {magnitude : Nat}
    (plain : ∀ c ∈ sign, isOuterBlank c = false)
    (signed : ∀ digits, (∀ c ∈ digits, c.isDigit = true) →
      splitSign (sign ++ digits) = (negative, digits))
    (short : magnitude < 10 ^ NumberError.digitLimit) :
    integer? (String.ofList (sign ++ Nat.toDigits 10 magnitude)) =
      .ok (if negative then -(magnitude : Int) else magnitude) := by
  have areDigits : ∀ c ∈ Nat.toDigits 10 magnitude, c.isDigit = true :=
    fun c member => Nat.isDigit_of_mem_toDigits (by decide) (by decide) member
  have untrimmed :
      Text.trimWhile isOuterBlank (sign ++ Nat.toDigits 10 magnitude) =
        sign ++ Nat.toDigits 10 magnitude := by
    refine Text.trimWhile_of_forall fun c member => ?_
    rcases List.mem_append.mp member with inSign | inDigits
    · exact plain c inSign
    · exact isOuterBlank_of_isDigit (areDigits c inDigits)
  have fits : ¬ NumberError.digitLimit < (Nat.toDigits 10 magnitude).length :=
    Nat.not_lt.mpr ((Nat.length_toDigits_le_iff (by decide) (by decide)).mpr short)
  have read :
      valueOf (valuesOf (Nat.toDigits 10 magnitude)) = magnitude := by
    rw [valueOf_digits, Nat.ofDigitChars_ten_toDigits]
  rw [integer?, String.toList_ofList, untrimmed, signed _ areDigits]
  simp only [takeDigits_of_isDigit areDigits, length_valuesOf, fits, read]
  simp [Nat.toDigits_ne_nil]

/-- The decimal numeral of a natural number is read as that number. -/
theorem integer?_toString
    {value : Nat}
    (short : value < 10 ^ NumberError.digitLimit) :
    integer? (toString value) = .ok (value : Int) :=
  integer?_digits false [] (by simp) (fun _ areDigits => splitSign_of_isDigit areDigits) short

/-- The decimal numeral of an integer is read as that integer. -/
theorem integer?_toString_int
    {value : Int}
    (short : value.natAbs < 10 ^ NumberError.digitLimit) :
    integer? (toString value) = .ok value := by
  cases value with
  | ofNat magnitude =>
      exact integer?_toString short
  | negSucc less =>
      have written :
          toString (Int.negSucc less) = String.ofList (['-'] ++ Nat.toDigits 10 (less + 1)) := by
        apply String.toList_injective
        simp [toString, Int.repr]
      have fits : less + 1 < 10 ^ NumberError.digitLimit := short
      rw [written,
        integer?_digits true ['-'] (Text.forall_of_all (by decide)) (fun _ _ => rfl) fits]
      rfl

/-!
## What is read is short enough to be written
-/

/-- The value of a digit is below ten. -/
theorem lt_of_digitValue?
    {c : Char}
    {digit : Nat}
    (found : Text.digitValue? c = some digit) :
    digit < 10 := by
  obtain ⟨first, inTable, rfl⟩ := Option.map_eq_some_iff.mp found
  have bounds := List.find?_some inTable
  simp only [Bool.and_eq_true, decide_eq_true_eq] at bounds
  omega

theorem lt_of_mem_moreDigits (text : List Char) :
    ∀ digit ∈ (moreDigits text).1, digit < 10 := by
  induction text using moreDigits.induct with
  | case1 =>
      simp [moreDigits]
  | case2 c rest digit found digits after more inductionHypothesis =>
      have first := lt_of_digitValue? found
      simp_all [moreDigits]
  | case3 c rest notDigit =>
      simp [moreDigits, notDigit]
  | case4 c rest notUnderscore digit found digits after more inductionHypothesis =>
      have first := lt_of_digitValue? found
      rw [moreDigits.eq_def]
      simp_all
  | case5 c rest notUnderscore notDigit =>
      rw [moreDigits.eq_def]
      simp_all

/-- All values that are taken are below ten. -/
theorem lt_of_mem_takeDigits (text : List Char) :
    ∀ digit ∈ (takeDigits text).1, digit < 10 := by
  cases text with
  | nil =>
      simp [takeDigits]
  | cons c rest =>
      rw [takeDigits]
      split
      · next digit found =>
        intro other member
        rcases List.mem_cons.mp member with rfl | inRest
        · exact lt_of_digitValue? found
        · exact lt_of_mem_moreDigits rest other inRest
      · simp

/-- An integer that was read has no more digits than a numeral may have. -/
theorem natAbs_lt_of_integer?
    {text : String}
    {value : Int}
    (read : integer? text = .ok value) :
    value.natAbs < 10 ^ NumberError.digitLimit := by
  rw [integer?] at read
  generalize splitSign (Text.trimWhile isOuterBlank text.toList) = signed at read
  obtain ⟨negative, body⟩ := signed
  dsimp only at read
  split at read
  · exact absurd read (by simp)
  · next fits =>
    split at read
    · exact absurd read (by simp)
    · next whole =>
      have ended : (takeDigits body).2 = [] := by
        simp_all
      have few : (takeDigits body).1.length ≤ NumberError.digitLimit := by
        simpa [ended] using fits
      have bounded := valueOf_lt (lt_of_mem_takeDigits body)
      have sized : value.natAbs = valueOf (takeDigits body).1 := by
        rw [← Except.ok.inj read]
        split <;> simp
      rw [sized]
      exact Nat.lt_of_lt_of_le bounded (Nat.pow_le_pow_right (by decide) few)

/-!
## Texts that are no numerals
-/

/-- A text that is no real number is named in the error. -/
theorem real?_error
    {text : String}
    {error : NumberError}
    (fails : real? text = .error error) :
    error = .unreadableReal text := by
  unfold real? at fails
  dsimp only at fails
  split at fails
  · exact absurd fails (by simp)
  · exact (Except.error.inj fails).symm

/-- A text that is no integer is named in the error, unless it has too many digits. -/
theorem integer?_error
    {text : String}
    {error : NumberError}
    (fails : integer? text = .error error) :
    error = .unreadableInteger text ∨ ∃ count, error = .tooManyDigits count := by
  unfold integer? at fails
  dsimp only at fails
  split at fails
  · exact Or.inr ⟨_, (Except.error.inj fails).symm⟩
  · split at fails
    · exact Or.inl (Except.error.inj fails).symm
    · exact absurd fails (by simp)

end SceneEditor.Numeral
