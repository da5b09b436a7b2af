import SceneEditor.Number.Decimal
import SceneEditor.Proofs.Number.Characters
import SceneEditor.Proofs.Number.NearestDecimal

namespace SceneEditor

/-!
# The shortest text of a number

The shortest decimal of a finite number is one that reads back, and its layout as text keeps it: at
whichever place the point stands, and with an exponent or without one, the digits and the exponent that
are read are those of the decimal, up to zeros.  So the text of a finite number is read as that number,
and it always shows a point or an exponent, which the text of an integer never does.
-/

/-- Rounding gives the whole part or the next integer. -/
theorem roundHalfEven_eq_or (num den : Nat) :
    roundHalfEven num den = num / den ∨ roundHalfEven num den = num / den + 1 := by
  have atLeast := le_roundHalfEven num den
  have atMost := roundHalfEven_le num den
  omega

namespace Binary64

/-!
## The shortest decimal reads back
-/

section

variable {rank : Fin finiteCount} {decimal : Decimal}

/-- A decimal that reads back is rounded to its number. -/
theorem ofDecimal_of_readsBack
    (reads : readsBack rank decimal = true)
    (negative : Bool) :
    ofDecimal negative decimal.coefficient decimal.exponent = finite negative rank := by
  have isNearest := of_decide_eq_true reads
  obtain ⟨above, below, isExponent⟩ := exists_sub decimal.exponent
  rw [isExponent, ofDecimal_sub] at isNearest ⊢
  exact nearest_of_nearest isNearest negative

/-- A neighbour that is found reads back. -/
theorem readsBack_of_neighbour?
    {num den : Nat}
    {exponent : Int}
    (found : neighbour? rank num den exponent = some decimal) :
    readsBack rank decimal = true := by
  rw [neighbour?] at found
  split at found
  · next isLower isUpper =>
    obtain rfl := Option.some.inj found
    rcases roundHalfEven_eq_or num den with same | same
    · rw [same]
      exact isLower
    · rw [same]
      exact isUpper
  · next isLower _ =>
    obtain rfl := Option.some.inj found
    exact isLower
  · next _ isUpper =>
    obtain rfl := Option.some.inj found
    exact isUpper
  · exact nomatch found

/-- A decimal of a number of digits that is found reads back. -/
theorem readsBack_of_withDigits?
    {count : Nat}
    (found : withDigits? rank count = some decimal) :
    readsBack rank decimal = true :=
  readsBack_of_neighbour? found

end

-- the exponent is a variable, since its powers have too many digits to be computed
/-- All digits of a number make exactly this number. -/
private theorem ofDecimal_allDigits_of
    {bits : Nat}
    (isUnit : unitsPerOne = Nat.pow 2 bits)
    (rank : Fin finiteCount) :
    ofDecimal false (units rank * Nat.pow 5 bits) (-bits) = finite false rank := by
  have whole : (-bits : Int) = (0 : Nat) - bits := by
    omega
  have tens : Nat.pow 5 bits * Nat.pow 2 bits = 10 ^ bits :=
    (Nat.mul_pow 5 2 bits).symm
  rw [whole, ofDecimal_sub, Nat.pow_zero, Nat.mul_one, isUnit, Nat.mul_assoc, tens]
  exact nearest_units false rank (Nat.pow_pos (by decide))

/-- All digits of a number read back. -/
theorem readsBack_allDigits (rank : Fin finiteCount) :
    readsBack rank (allDigits rank) = true :=
  decide_eq_true (ofDecimal_allDigits_of unitsPerOne.eq_1 rank)

/-- The shortest decimal reads back. -/
theorem readsBack_shortest (rank : Fin finiteCount) :
    readsBack rank (shortest rank) = true := by
  rw [shortest]
  split
  · next isZero =>
    have isRank : rank = ⟨0, by decide⟩ := Fin.ext isZero
    have isNearest : ofDecimal false 0 (0 : Nat) = finite false rank := by
      rw [ofDecimal_natCast, Nat.zero_mul, Nat.zero_mul, nearest_zero, isRank]
      rfl
    exact decide_eq_true isNearest
  · cases found : (List.range 17).findSome? fun fewer => withDigits? rank (fewer + 1) with
    | none =>
        exact readsBack_allDigits rank
    | some decimal =>
        obtain ⟨fewer, -, isDecimal⟩ := List.exists_of_findSome?_eq_some found
        exact readsBack_of_withDigits? isDecimal

end Binary64

/-!
## Digits
-/

namespace Decimal

open Numeral

theorem isDigit_digits (decimal : Decimal) :
    ∀ c ∈ decimal.digits, c.isDigit = true := by
  rw [digits]
  split
  · exact isDigit_zeros 1
  · intro c member
    rw [List.mem_reverse] at member
    exact Nat.isDigit_of_mem_toDigits (by decide) (by decide)
      (List.mem_reverse.mp ((List.dropWhile_sublist _).subset member))

theorem digits_ne_nil (decimal : Decimal) :
    decimal.digits ≠ [] := by
  rw [digits]
  split
  · exact List.cons_ne_nil _ _
  · next filled =>
    exact filled

/-- A text is what is left of it without the zeros at its end, and these zeros. -/
theorem exists_append_zeros (text : List Char) :
    ∃ zeros, text = (text.reverse.dropWhile (· = '0')).reverse ++ List.replicate zeros '0' := by
  have areZeros :
      text.reverse.takeWhile (· = '0') =
        List.replicate (text.reverse.takeWhile (· = '0')).length '0' :=
    List.eq_replicate_iff.mpr ⟨rfl, fun c member => by simpa using List.mem_takeWhile_imp member⟩
  refine ⟨(text.reverse.takeWhile (· = '0')).length, ?_⟩
  rw [← List.reverse_replicate, ← areZeros, ← List.reverse_append, List.takeWhile_append_dropWhile,
    List.reverse_reverse]

/-- The digits of the coefficient are those of the decimal and zeros behind them. -/
theorem exists_zeros (decimal : Decimal) :
    ∃ zeros : Nat,
      valueOf (valuesOf decimal.digits) * 10 ^ zeros = decimal.coefficient ∧
        decimal.point - decimal.digits.length = decimal.exponent + zeros := by
  rw [digits, point]
  have isValue : valueOf (valuesOf (Nat.toDigits 10 decimal.coefficient)) = decimal.coefficient :=
    valueOf_padded 0 decimal.coefficient
  have filled : Nat.toDigits 10 decimal.coefficient ≠ [] := Nat.toDigits_ne_nil
  generalize Nat.toDigits 10 decimal.coefficient = written at isValue filled ⊢
  obtain ⟨zeros, shape⟩ := exists_append_zeros written
  generalize (written.reverse.dropWhile (· = '0')).reverse = kept at shape ⊢
  rw [shape, valueOf_append_zeros] at isValue
  have isLength : written.length = kept.length + zeros := by
    rw [shape, List.length_append, List.length_replicate]
  cases kept with
  | nil =>
      obtain ⟨fewer, rfl⟩ : ∃ fewer, zeros = fewer + 1 := by
        cases zeros with
        | zero => exact absurd shape filled
        | succ fewer => exact ⟨fewer, rfl⟩
      refine ⟨fewer, ?_, ?_⟩
      · rw [← isValue]
        simp [valueOf, valuesOf]
      · rw [isLength]
        simp only [List.length_nil, List.length_singleton]
        omega
  | cons first rest =>
      refine ⟨zeros, isValue, ?_⟩
      rw [isLength]
      dsimp only
      omega

/-- A decimal is told by its digits and the place of its point. -/
theorem ofDecimal_digits
    (negative : Bool)
    (decimal : Decimal) :
    Binary64.ofDecimal negative (valueOf (valuesOf decimal.digits))
        (decimal.point - decimal.digits.length) =
      Binary64.ofDecimal negative decimal.coefficient decimal.exponent := by
  obtain ⟨zeros, isCoefficient, isExponent⟩ := decimal.exists_zeros
  rw [isExponent, ← isCoefficient, Binary64.ofDecimal_mul_pow]

end Decimal

/-!
## Layouts
-/

namespace Numeral

/-- The text is an exponent mark, or nothing where the exponent is zero. -/
structure IsMark (mark : List Char) (exponent : Int) : Prop where
  taken : takeExponent mark = (exponent, [])
  stops : Stops mark
  noPoint : takeFraction mark = ([], mark)

/-- No mark stands for the exponent zero. -/
theorem isMark_nil : IsMark [] 0 where
  taken := rfl
  stops := stops_nil
  noPoint := rfl

/-- An exponent mark is the letter, a sign and the digits of the magnitude. -/
theorem exponentMark_eq (exponent : Int) :
    ∃ first digits,
      Decimal.exponentMark exponent =
          'e' :: (if exponent < 0 then '-' else '+') :: first :: digits ∧
        (∀ c ∈ first :: digits, c.isDigit = true) ∧
        valueOf (valuesOf (first :: digits)) = exponent.natAbs := by
  let magnitude := Nat.toDigits 10 exponent.natAbs
  obtain ⟨first, digits, shape⟩ :
      ∃ first digits, List.replicate (2 - magnitude.length) '0' ++ magnitude = first :: digits :=
    List.exists_cons_of_ne_nil (List.append_ne_nil_of_right_ne_nil _ Nat.toDigits_ne_nil)
  refine ⟨first, digits, ?_, ?_, ?_⟩
  · rw [← shape]
    rfl
  · rw [← shape]
    exact isDigit_padded _ _
  · rw [← shape]
    exact valueOf_padded _ _

/-- The mark of an exponent is read as this exponent. -/
theorem isMark_exponentMark (exponent : Int) : IsMark (Decimal.exponentMark exponent) exponent := by
  obtain ⟨first, digits, shape, areDigits, isValue⟩ := exponentMark_eq exponent
  have taken := takeDigits_of_isDigit areDigits
  obtain ⟨value, values, areValues⟩ : ∃ value values, valuesOf (first :: digits) = value :: values :=
    ⟨_, _, rfl⟩
  rw [areValues] at taken isValue
  rw [shape]
  constructor
  · by_cases negative : exponent < 0
    · have isExponent : -(exponent.natAbs : Int) = exponent := by
        omega
      simp only [if_pos negative, takeExponent, splitSign, taken, isValue, isExponent]
      rfl
    · have isExponent : (exponent.natAbs : Int) = exponent := by
        omega
      simp only [if_neg negative, takeExponent, splitSign, taken, isValue, isExponent]
      rfl
  · intro c isFirst
    obtain rfl := Option.some.inj isFirst
    decide
  · rfl

/-- The text is read as the number that is nearest to the decimal, whatever sign stands before it. -/
def Reads (text : List Char) (coefficient : Nat) (exponent : Int) : Prop :=
  ∀ negative, decimal? negative text = some (Binary64.ofDecimal negative coefficient exponent)

/-- Zeros behind the digits of the coefficient are left out of it. -/
theorem Reads.dropZeros
    {text : List Char}
    {coefficient zeros : Nat}
    {exponent : Int}
    (reads : Reads text (coefficient * 10 ^ zeros) exponent) :
    Reads text coefficient (exponent + zeros) := by
  intro negative
  rw [← Binary64.ofDecimal_mul_pow]
  exact reads negative

theorem lt_of_mem_valuesOf
    {digits : List Char}
    (areDigits : ∀ c ∈ digits, c.isDigit = true) :
    ∀ digit ∈ valuesOf digits, digit < 10 := by
  have taken := lt_of_mem_takeDigits digits
  rwa [takeDigits_of_isDigit areDigits] at taken

section

variable {whole fraction mark : List Char} {exponent : Int}

/-- Digits around a point are read with an exponent less by those behind it. -/
theorem reads_pointed
    (areWhole : ∀ c ∈ whole, c.isDigit = true)
    (areFraction : ∀ c ∈ fraction, c.isDigit = true)
    (filled : whole ≠ [])
    (isMark : IsMark mark exponent) :
    Reads (whole ++ '.' :: (fraction ++ mark)) (valueOf (valuesOf (whole ++ fraction)))
      (exponent - fraction.length) := by
  intro negative
  have atPoint : Stops ('.' :: (fraction ++ mark)) := by
    intro c isPoint
    obtain rfl := Option.some.inj isPoint
    decide
  have areDigits : ∀ c ∈ whole ++ fraction, c.isDigit = true :=
    List.forall_mem_append.mpr ⟨areWhole, areFraction⟩
  rw [decimal?, takeDigits_append areWhole atPoint]
  simp only [takeFraction, takeDigits_append areFraction isMark.stops, isMark.taken, ← valuesOf_append,
    nearestDecimal_eq negative (lt_of_mem_valuesOf areDigits), length_valuesOf]
  simp [filled]

/-- Digits without a point are read with the exponent of their mark. -/
theorem reads_whole
    (areWhole : ∀ c ∈ whole, c.isDigit = true)
    (filled : whole ≠ [])
    (isMark : IsMark mark exponent) :
    Reads (whole ++ mark) (valueOf (valuesOf whole)) exponent := by
  intro negative
  rw [decimal?, takeDigits_append areWhole isMark.stops]
  simp only [isMark.noPoint, isMark.taken, List.append_nil, List.length_nil,
    nearestDecimal_eq negative (lt_of_mem_valuesOf areWhole)]
  simp [filled]

end

section

variable {digits : List Char}

/-- The positional form is read as the decimal that it writes. -/
theorem reads_positional
    (areDigits : ∀ c ∈ digits, c.isDigit = true)
    (filled : digits ≠ [])
    (point : Int) :
    Reads (Decimal.positional Binary64.exactLayout digits point) (valueOf (valuesOf digits))
      (point - digits.length) := by
  rw [Decimal.positional]
  split
  · next noWhole =>
    have read := reads_pointed (isDigit_zeros 1)
      (List.forall_mem_append.mpr ⟨isDigit_zeros (-point).toNat, areDigits⟩) (by decide) isMark_nil
    rw [valueOf_zeros_append, valueOf_zeros_append, List.append_nil, List.length_append,
      List.length_replicate] at read
    have isExponent :
        (0 : Int) - ((-point).toNat + digits.length : Nat) = point - digits.length := by
      omega
    rw [isExponent] at read
    exact read
  · split
    · next noFraction =>
      have areWhole :
          ∀ c ∈ digits ++ List.replicate (point.toNat - digits.length) '0', c.isDigit = true :=
        List.forall_mem_append.mpr ⟨areDigits, isDigit_zeros _⟩
      have read := reads_pointed areWhole (isDigit_zeros 1)
        (List.append_ne_nil_of_left_ne_nil filled _) isMark_nil
      rw [valueOf_append_zeros, valueOf_append_zeros] at read
      have isExponent :
          (0 : Int) - (List.replicate 1 '0').length + (1 : Nat) + (point.toNat - digits.length : Nat) =
            point - digits.length := by
        rw [List.length_replicate]
        omega
      have kept := read.dropZeros.dropZeros
      rw [isExponent] at kept
      exact kept
    · next hasFraction =>
      have areFirst : ∀ c ∈ digits.take point.toNat, c.isDigit = true :=
        fun c member => areDigits c (List.mem_of_mem_take member)
      have areLast : ∀ c ∈ digits.drop point.toNat, c.isDigit = true :=
        fun c member => areDigits c (List.mem_of_mem_drop member)
      have firstFilled : digits.take point.toNat ≠ [] := by
        intro none
        have noDigits := congrArg List.length none
        rw [List.length_take, List.length_nil] at noDigits
        omega
      have read := reads_pointed areFirst areLast firstFilled isMark_nil
      have isExponent :
          (0 : Int) - (digits.length - point.toNat : Nat) = point - digits.length := by
        omega
      rw [List.take_append_drop, List.append_nil, List.length_drop, isExponent] at read
      exact read

/-- The scientific form is read as the decimal that it writes. -/
theorem reads_scientific
    (areDigits : ∀ c ∈ digits, c.isDigit = true)
    (filled : digits ≠ [])
    (point : Int) :
    Reads (Decimal.scientific digits point) (valueOf (valuesOf digits)) (point - digits.length) := by
  have isMark := isMark_exponentMark (point - 1)
  rw [Decimal.scientific.eq_def]
  split
  · exact absurd rfl filled
  · exact reads_whole areDigits filled isMark
  · next first rest _ =>
    obtain ⟨isFirst, areRest⟩ := List.forall_mem_cons.mp areDigits
    have read := reads_pointed (List.forall_mem_singleton.mpr isFirst) areRest (by simp) isMark
    have isExponent : point - 1 - rest.length = point - (first :: rest).length := by
      rw [List.length_cons]
      omega
    rw [isExponent] at read
    exact read

/-- The exact layout of a decimal is read as the number that is nearest to it. -/
theorem reads_render (decimal : Decimal) :
    Reads (decimal.render Binary64.exactLayout) decimal.coefficient decimal.exponent := by
  intro negative
  have areDigits := decimal.isDigit_digits
  have filled := decimal.digits_ne_nil
  rw [← decimal.ofDecimal_digits, Decimal.render]
  split
  · exact reads_positional areDigits filled decimal.point negative
  · exact reads_scientific areDigits filled decimal.point negative

end

end Numeral

namespace Decimal

/-- The text starts with a digit. -/
def OpensWithDigit (text : List Char) : Prop :=
  ∃ first, text.head? = some first ∧ first.isDigit = true

theorem opensWithDigit_digits (decimal : Decimal) : OpensWithDigit decimal.digits := by
  obtain ⟨first, rest, shape⟩ := List.exists_cons_of_ne_nil decimal.digits_ne_nil
  refine ⟨first, by rw [shape]; rfl, decimal.isDigit_digits first ?_⟩
  rw [shape]
  exact List.mem_cons_self

theorem OpensWithDigit.append
    {text : List Char}
    (opens : OpensWithDigit text)
    (rest : List Char) :
    OpensWithDigit (text ++ rest) := by
  obtain ⟨first, isFirst, isDigit⟩ := opens
  exact ⟨first, by rw [List.head?_append, isFirst]; rfl, isDigit⟩

theorem opensWithDigit_render
    (layout : Layout)
    (decimal : Decimal) :
    OpensWithDigit (decimal.render layout) := by
  have opens := decimal.opensWithDigit_digits
  rw [render]
  split
  · rw [positional]
    split
    · exact ⟨'0', rfl, by decide⟩
    · next whole =>
      split
      · exact (opens.append _).append _
      · refine OpensWithDigit.append ?_ _
        rw [OpensWithDigit, List.head?_take, if_neg (by omega)]
        exact opens
  · obtain ⟨first, isFirst, isDigit⟩ := opens
    rw [scientific.eq_def]
    split
    · next none =>
      exact absurd none decimal.digits_ne_nil
    · next digit shape =>
      rw [shape] at isFirst
      exact ⟨first, isFirst, isDigit⟩
    · next digit rest _ shape =>
      rw [shape] at isFirst
      exact ⟨first, isFirst, isDigit⟩

/-- The exact layout shows a point or an exponent. -/
theorem mark_mem_render (decimal : Decimal) :
    '.' ∈ decimal.render Binary64.exactLayout ∨ 'e' ∈ decimal.render Binary64.exactLayout := by
  rw [render]
  split
  · left
    rw [positional]
    split
    · simp
    · split
      · simp [Binary64.exactLayout]
      · simp
  · right
    have letter : 'e' ∈ exponentMark (decimal.point - 1) := List.mem_cons_self
    rw [scientific.eq_def]
    split
    · next none =>
      exact absurd none decimal.digits_ne_nil
    · exact List.mem_cons_of_mem _ letter
    · exact List.mem_cons_of_mem _ (List.mem_cons_of_mem _ (List.mem_append_right _ letter))

end Decimal

/-!
## Reading the shortest text
-/

namespace Numeral

/-- No character of numbers is a blank. -/
theorem isOuterBlank_of_numberCharacter :
    ∀ c ∈ numberCharacters, isOuterBlank c = false :=
  Text.forall_of_all (by decide)

/-- What starts with a digit is no word for a number that is not finite. -/
theorem special?_of_opensWithDigit
    {body : List Char}
    (opens : Decimal.OpensWithDigit body)
    (negative : Bool) :
    special? negative body = none := by
  obtain ⟨first, isFirst, isDigit⟩ := opens
  have noLetter : first.toLower ≠ 'i' ∧ first.toLower ≠ 'n' :=
    Text.of_isDigit (fun c => c.toLower ≠ 'i' ∧ c.toLower ≠ 'n') (by decide) isDigit
  have headOf {word : String} (same : String.ofList (body.map Char.toLower) = word) :
      word.toList.head? = some first.toLower := by
    rw [← same, String.toList_ofList, List.head?_map, isFirst]
    rfl
  have notInf : String.ofList (body.map Char.toLower) ≠ "inf" := fun same =>
    noLetter.1 (Option.some.inj (headOf same)).symm
  have notInfinity : String.ofList (body.map Char.toLower) ≠ "infinity" := fun same =>
    noLetter.1 (Option.some.inj (headOf same)).symm
  have notNan : String.ofList (body.map Char.toLower) ≠ "nan" := fun same =>
    noLetter.2 (Option.some.inj (headOf same)).symm
  simp [special?, notInf, notInfinity, notNan]

/-- A sign and a body that is read make the nearest real number. -/
theorem real?_of_reads
    {body : List Char}
    {coefficient : Nat}
    {exponent : Int}
    (isNumber : IsNumberText body)
    (opens : Decimal.OpensWithDigit body)
    (reads : Reads body coefficient exponent)
    (negative : Bool) :
    real? (String.ofList (if negative then '-' :: body else body)) =
      .ok (Binary64.ofDecimal negative coefficient exponent) := by
  have untrimmed :
      Text.trimWhile isOuterBlank (if negative then '-' :: body else body) =
        if negative then '-' :: body else body :=
    Text.trimWhile_of_forall fun c member =>
      isOuterBlank_of_numberCharacter c (isNumber.signed negative c member)
  have signed : splitSign (if negative then '-' :: body else body) = (negative, body) := by
    cases negative with
    | true =>
        rfl
    | false =>
        obtain ⟨first, isFirst, isDigit⟩ := opens
        obtain ⟨rest, rfl⟩ := List.head?_eq_some_iff.mp isFirst
        exact splitSign_cons_of_isDigit isDigit rest
  rw [real?, String.toList_ofList, untrimmed, signed]
  simp only [special?_of_opensWithDigit opens, reads negative]
  rfl

end Numeral

namespace Binary64

/-- A finite number is written as its shortest decimal behind its sign. -/
theorem text_finite
    (negative : Bool)
    (rank : Fin finiteCount) :
    (finite negative rank).text =
      String.ofList
        (if negative then '-' :: (shortest rank).render exactLayout
          else (shortest rank).render exactLayout) :=
  rfl

/-- The text of a finite number is read as that number. -/
theorem real?_text
    {value : Binary64}
    (isFinite : value.isFinite = true) :
    Numeral.real? value.text = .ok value := by
  obtain ⟨negative, rank, rfl⟩ := exists_of_isFinite isFinite
  have isNumber : IsNumberText ((shortest rank).render exactLayout) :=
    Decimal.isNumberText_render (Text.forall_of_all (by decide)) _
  have read := Numeral.real?_of_reads isNumber (Decimal.opensWithDigit_render _ _)
    (Numeral.reads_render (shortest rank)) negative
  rw [ofDecimal_of_readsBack (readsBack_shortest rank)] at read
  rw [text_finite]
  exact read

/-- The text of a finite number shows a point or an exponent. -/
theorem mark_mem_text
    {value : Binary64}
    (isFinite : value.isFinite = true) :
    '.' ∈ value.text.toList ∨ 'e' ∈ value.text.toList := by
  obtain ⟨negative, rank, rfl⟩ := exists_of_isFinite isFinite
  have mark := (shortest rank).mark_mem_render
  rw [text_finite, String.toList_ofList]
  cases negative with
  | false =>
      exact mark
  | true =>
      exact mark.imp (List.mem_cons_of_mem _) (List.mem_cons_of_mem _)

end Binary64

end SceneEditor
