import SceneEditor.Proofs.Number.Numeral
import SceneEditor.Proofs.Text.Blank

namespace SceneEditor.Numeral

/-!
# The shapes of integers

What the numeral of an integer looks like: a sign or none, and digits of any script, of which two may
have one underscore between them.  A text is read as an integer exactly if it is such a numeral,
with no more digits than are read.
-/

/-- The text is made of these digits, with an underscore or none between two of them. -/
inductive IsDigits : List Char → List Nat → Prop where
  | last {c : Char} {digit : Nat}
      (isDigit : Text.digitValue? c = some digit) : IsDigits [c] [digit]
  | next {c : Char} {digit : Nat} {rest : List Char} {digits : List Nat}
      (isDigit : Text.digitValue? c = some digit)
      (areDigits : IsDigits rest digits) : IsDigits (c :: rest) (digit :: digits)
  | apart {c : Char} {digit : Nat} {rest : List Char} {digits : List Nat}
      (isDigit : Text.digitValue? c = some digit)
      (areDigits : IsDigits rest digits) : IsDigits (c :: '_' :: rest) (digit :: digits)

/-- The text is the numeral of the integer, with no blanks around it. -/
inductive IsInteger : List Char → Int → Prop where
  | unsigned {text : List Char} {digits : List Nat}
      (areDigits : IsDigits text digits)
      (few : digits.length ≤ NumberError.digitLimit) : IsInteger text (valueOf digits)
  | plus {text : List Char} {digits : List Nat}
      (areDigits : IsDigits text digits)
      (few : digits.length ≤ NumberError.digitLimit) : IsInteger ('+' :: text) (valueOf digits)
  | minus {text : List Char} {digits : List Nat}
      (areDigits : IsDigits text digits)
      (few : digits.length ≤ NumberError.digitLimit) : IsInteger ('-' :: text) (-valueOf digits)

/-!
## Digits
-/

theorem IsDigits.exists_cons
    {text : List Char}
    {digits : List Nat}
    (areDigits : IsDigits text digits) :
    ∃ c rest digit others,
      text = c :: rest ∧ digits = digit :: others ∧ Text.digitValue? c = some digit := by
  cases areDigits with
  | last isDigit | next isDigit | apart isDigit =>
      exact ⟨_, _, _, _, rfl, rfl, isDigit⟩

/-- A character is no digit if it is told from every digit of the table. -/
theorem ne_of_digitValue?
    {c other : Char}
    {digit : Nat}
    (isDigit : Text.digitValue? c = some digit)
    (noDigit : Text.digitValue? other = none) :
    c ≠ other := by
  rintro rfl
  exact absurd (isDigit.symm.trans noDigit) (Option.some_ne_none digit)

/-- A digit goes on with the digits behind it. -/
theorem moreDigits_cons
    {c : Char}
    {digit : Nat}
    (isDigit : Text.digitValue? c = some digit)
    (rest : List Char) :
    moreDigits (c :: rest) = (digit :: (moreDigits rest).1, (moreDigits rest).2) := by
  have notUnderscore : c ≠ '_' := ne_of_digitValue? isDigit (by decide)
  rw [moreDigits, isDigit]
  exact fun _ _ isUnderscore _ => notUnderscore isUnderscore

/-- An underscore between digits is passed over. -/
theorem moreDigits_underscore
    {c : Char}
    {digit : Nat}
    (isDigit : Text.digitValue? c = some digit)
    (rest : List Char) :
    moreDigits ('_' :: c :: rest) = (digit :: (moreDigits rest).1, (moreDigits rest).2) := by
  rw [moreDigits, isDigit]

/-- A first digit is taken with those behind it. -/
theorem takeDigits_cons
    {c : Char}
    {digit : Nat}
    (isDigit : Text.digitValue? c = some digit)
    (rest : List Char) :
    takeDigits (c :: rest) = (digit :: (moreDigits rest).1, (moreDigits rest).2) := by
  rw [takeDigits, isDigit]

/-- What may follow a digit: nothing, or more digits behind an underscore or none. -/
def GoesOn (text : List Char) (digits : List Nat) : Prop :=
  text = [] ∧ digits = [] ∨ IsDigits text digits ∨ ∃ rest, text = '_' :: rest ∧ IsDigits rest digits

/-- A digit in front of what goes on makes digits. -/
theorem GoesOn.isDigits
    {c : Char}
    {digit : Nat}
    {rest : List Char}
    {digits : List Nat}
    (goesOn : GoesOn rest digits)
    (isDigit : Text.digitValue? c = some digit) :
    IsDigits (c :: rest) (digit :: digits) := by
  rcases goesOn with ⟨rfl, rfl⟩ | areDigits | ⟨others, rfl, areDigits⟩
  · exact .last isDigit
  · exact .next isDigit areDigits
  · exact .apart isDigit areDigits

/-- What is read to its end goes on with digits. -/
theorem goesOn_of_moreDigits
    {text : List Char}
    (whole : (moreDigits text).2 = []) :
    GoesOn text (moreDigits text).1 := by
  induction text using moreDigits.induct with
  | case1 =>
      exact .inl ⟨rfl, rfl⟩
  | case2 c rest digit found _ _ _ inductionHypothesis =>
      rw [moreDigits_underscore found] at whole ⊢
      exact .inr (.inr ⟨_, rfl, (inductionHypothesis whole).isDigits found⟩)
  | case3 c rest notDigit =>
      rw [moreDigits, notDigit] at whole
      exact absurd whole (List.cons_ne_nil _ _)
  | case4 c rest _ digit found _ _ _ inductionHypothesis =>
      rw [moreDigits_cons found] at whole ⊢
      exact .inr (.inl ((inductionHypothesis whole).isDigits found))
  | case5 c rest notUnderscore notDigit =>
      rw [moreDigits, notDigit] at whole
      · exact absurd whole (List.cons_ne_nil _ _)
      · exact notUnderscore

/-- Digits go on to the end of the text that they are. -/
theorem IsDigits.moreDigits_eq
    {text : List Char}
    {digits : List Nat}
    (areDigits : IsDigits text digits) :
    moreDigits text = (digits, []) := by
  induction areDigits with
  | last isDigit =>
      rw [moreDigits_cons isDigit]
      rfl
  | next isDigit _ inductionHypothesis =>
      rw [moreDigits_cons isDigit, inductionHypothesis]
  | apart isDigit areDigits inductionHypothesis =>
      obtain ⟨c, rest, digit, others, rfl, rfl, nextIsDigit⟩ := areDigits.exists_cons
      rw [moreDigits_cons nextIsDigit] at inductionHypothesis
      obtain ⟨sameDigits, sameRest⟩ := Prod.mk.inj inductionHypothesis
      rw [moreDigits_cons isDigit, moreDigits_underscore nextIsDigit, sameDigits, sameRest]

/-- A text is taken as digits to its end exactly if it is these digits. -/
theorem takeDigits_eq_iff
    {text : List Char}
    {digits : List Nat} :
    takeDigits text = (digits, []) ∧ digits ≠ [] ↔ IsDigits text digits := by
  constructor
  · rintro ⟨taken, filled⟩
    cases text with
    | nil =>
        exact absurd (congrArg Prod.fst taken).symm filled
    | cons c rest =>
        cases isDigit : Text.digitValue? c with
        | none =>
            rw [takeDigits, isDigit] at taken
            exact absurd (congrArg Prod.fst taken).symm filled
        | some digit =>
            rw [takeDigits_cons isDigit] at taken
            obtain ⟨rfl, whole⟩ := Prod.mk.inj taken
            exact (goesOn_of_moreDigits whole).isDigits isDigit
  · intro areDigits
    obtain ⟨c, rest, digit, others, rfl, rfl, isDigit⟩ := areDigits.exists_cons
    refine ⟨?_, List.cons_ne_nil _ _⟩
    rw [takeDigits_cons isDigit, ← moreDigits_cons isDigit, areDigits.moreDigits_eq]

/-!
## Integers
-/

/-- Digits have no sign. -/
theorem splitSign_of_isDigits
    {text : List Char}
    {digits : List Nat}
    (areDigits : IsDigits text digits) :
    splitSign text = (false, text) := by
  obtain ⟨c, rest, digit, others, rfl, -, isDigit⟩ := areDigits.exists_cons
  have notMinus : c ≠ '-' := ne_of_digitValue? isDigit (by decide)
  have notPlus : c ≠ '+' := ne_of_digitValue? isDigit (by decide)
  simp [splitSign, notMinus, notPlus]

/-- The numeral of an integer is digits behind its sign. -/
theorem isInteger_iff
    {text : List Char}
    {value : Int} :
    IsInteger text value ↔
      ∃ digits, IsDigits (splitSign text).2 digits ∧ digits.length ≤ NumberError.digitLimit ∧
        value = if (splitSign text).1 then -(valueOf digits : Int) else valueOf digits := by
  constructor
  · intro isInteger
    cases isInteger with
    | unsigned areDigits few =>
        rw [splitSign_of_isDigits areDigits]
        exact ⟨_, areDigits, few, rfl⟩
    | plus areDigits few =>
        exact ⟨_, areDigits, few, rfl⟩
    | minus areDigits few =>
        exact ⟨_, areDigits, few, rfl⟩
  · rintro ⟨digits, areDigits, few, rfl⟩
    unfold splitSign at areDigits ⊢
    split at areDigits
    · exact .minus areDigits few
    · exact .plus areDigits few
    · exact .unsigned areDigits few

/-- A text is read as an integer exactly if it is the numeral of it, but for blanks around it. -/
theorem integer?_eq_ok_iff
    {text : String}
    {value : Int} :
    integer? text = .ok value ↔ IsInteger (Text.trimWhile isOuterBlank text.toList) value := by
  rw [isInteger_iff, integer?]
  generalize splitSign (Text.trimWhile isOuterBlank text.toList) = signed
  obtain ⟨negative, body⟩ := signed
  dsimp only
  constructor
  · intro read
    split at read
    · exact absurd read (by simp)
    · next fits =>
      split at read
      · exact absurd read (by simp)
      · next whole =>
        simp only [Bool.or_eq_true, List.isEmpty_iff, Bool.not_eq_true', List.isEmpty_eq_false_iff,
          not_or, not_not] at whole
        have few : (takeDigits body).1.length ≤ NumberError.digitLimit := by
          simpa [whole.2] using fits
        refine ⟨(takeDigits body).1, takeDigits_eq_iff.mp ⟨?_, whole.1⟩, few,
          (Except.ok.inj read).symm⟩
        rw [← whole.2]
  · rintro ⟨digits, areDigits, few, rfl⟩
    obtain ⟨taken, filled⟩ := takeDigits_eq_iff.mpr areDigits
    simp [taken, filled, Nat.not_lt.mpr few]

/-!
## The characters of a numeral
-/

/-- The character is a sign, an underscore or a digit. -/
def IsNumeralPart (c : Char) : Prop :=
  c = '-' ∨ c = '+' ∨ c = '_' ∨ ∃ digit, Text.digitValue? c = some digit

/-- Digits are made of characters for numerals. -/
theorem IsDigits.isNumeralPart
    {text : List Char}
    {digits : List Nat}
    (areDigits : IsDigits text digits) :
    ∀ c ∈ text, IsNumeralPart c := by
  induction areDigits with
  | last isDigit =>
      exact List.forall_mem_singleton.mpr (.inr (.inr (.inr ⟨_, isDigit⟩)))
  | next isDigit _ inductionHypothesis =>
      exact List.forall_mem_cons.mpr ⟨.inr (.inr (.inr ⟨_, isDigit⟩)), inductionHypothesis⟩
  | apart isDigit _ inductionHypothesis =>
      exact List.forall_mem_cons.mpr ⟨.inr (.inr (.inr ⟨_, isDigit⟩)),
        List.forall_mem_cons.mpr ⟨.inr (.inr (.inl rfl)), inductionHypothesis⟩⟩

/-- An integer is made of characters for numerals. -/
theorem IsInteger.isNumeralPart
    {text : List Char}
    {value : Int}
    (isInteger : IsInteger text value) :
    ∀ c ∈ text, IsNumeralPart c := by
  cases isInteger with
  | unsigned areDigits =>
      exact areDigits.isNumeralPart
  | plus areDigits =>
      exact List.forall_mem_cons.mpr ⟨.inr (.inl rfl), areDigits.isNumeralPart⟩
  | minus areDigits =>
      exact List.forall_mem_cons.mpr ⟨.inl rfl, areDigits.isNumeralPart⟩

theorem IsInteger.ne_nil
    {text : List Char}
    {value : Int}
    (isInteger : IsInteger text value) :
    text ≠ [] := by
  cases isInteger with
  | unsigned areDigits =>
      obtain ⟨c, rest, -, -, rfl, -⟩ := areDigits.exists_cons
      exact List.cons_ne_nil c rest
  | plus | minus =>
      exact List.cons_ne_nil _ _

/-- No digit of any script is a blank. -/
theorem isBlank_of_digitValue?
    {c : Char}
    {digit : Nat}
    (isDigit : Text.digitValue? c = some digit) :
    Text.isBlank c = false := by
  have apart :
      ∀ first ∈ Text.digitZeros, ∀ range ∈ Text.blankRanges,
        first + 9 < range.1 ∨ range.2 < first := by
    decide +kernel
  obtain ⟨first, isFirst, -⟩ := Option.map_eq_some_iff.mp isDigit
  have bounds := List.find?_some isFirst
  simp only [Bool.and_eq_true, decide_eq_true_eq] at bounds
  rw [Text.isBlank, Text.CodeRanges.contains, List.any_eq_false]
  intro range member
  have beside := apart first (List.mem_of_find?_eq_some isFirst) range member
  simp only [Bool.and_eq_true, decide_eq_true_eq, not_and]
  omega

/-- No character for numerals is a blank. -/
theorem IsNumeralPart.isBlank_eq
    {c : Char}
    (isPart : IsNumeralPart c) :
    Text.isBlank c = false := by
  rcases isPart with rfl | rfl | rfl | ⟨digit, isDigit⟩
  · decide
  · decide
  · decide
  · exact isBlank_of_digitValue? isDigit

/-- A numeral has no blanks in it. -/
theorem IsInteger.isTrimmed
    {text : List Char}
    {value : Int}
    (isInteger : IsInteger text value) :
    Text.IsTrimmed text where
  front := fun c first => (isInteger.isNumeralPart c (List.mem_of_head? first)).isBlank_eq
  back := fun c last => (isInteger.isNumeralPart c (List.mem_of_getLast? last)).isBlank_eq

/-- What may stand around a numeral is a blank. -/
theorem isBlank_of_isOuterBlank
    {c : Char}
    (outer : isOuterBlank c = true) :
    Text.isBlank c = true := by
  rw [isOuterBlank] at outer
  split at outer
  · next ascii =>
    have blanks : ∀ code < 0x80, isOuterBlank (Char.ofNat code) = true →
        Text.isBlank (Char.ofNat code) = true := by
      decide +kernel
    have blank := blanks c.toNat ascii
    rw [Char.ofNat_toNat] at blank
    exact blank (by rw [isOuterBlank, if_pos ascii]; exact outer)
  · exact outer

/-- The blanks that are skipped around a numeral are none that trimming leaves. -/
theorem trimWhile_isOuterBlank
    {text : List Char}
    (isTrimmed : Text.IsTrimmed text) :
    Text.trimWhile isOuterBlank text = text := by
  have kept {c : Char} (visible : Text.isBlank c = false) : isOuterBlank c = false := by
    rw [Bool.eq_false_iff] at visible ⊢
    exact fun outer => visible (isBlank_of_isOuterBlank outer)
  exact Text.trimWhile_of_ends (fun c first => kept (isTrimmed.front c first))
    fun c last => kept (isTrimmed.back c last)

end SceneEditor.Numeral
