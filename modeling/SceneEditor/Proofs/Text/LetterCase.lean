import SceneEditor.Text.LetterCase

namespace SceneEditor.Text

/-!
# The small forms of texts

The two characters whose small form depends on their place, or is longer than they are, are not among
the ASCII characters.
-/

/-- The small form of a plain character is one character, whatever stands around it. -/
theorem smallForm_of_ascii
    {c : Char}
    (ascii : c.toNat < 0x80)
    (before after : List Char) :
    smallForm before c after = [c.toLower] := by
  have notSigma : c ≠ 'Σ' := by
    rintro rfl
    exact absurd ascii (by decide)
  have notDotted : c ≠ 'İ' := by
    rintro rfl
    exact absurd ascii (by decide)
  rw [smallForm, if_neg notSigma, if_neg notDotted, smallLetter, if_pos ascii]

/-- The characters of an ASCII text are put in small letters one by one. -/
theorem lower_of_ascii
    {text : List Char}
    (ascii : ∀ c ∈ text, c.toNat < 0x80) :
    lower text = text.map Char.toLower := by
  have lowers (before : List Char) : lowerAfter before text = text.map Char.toLower := by
    induction text generalizing before with
    | nil =>
        rfl
    | cons c rest inductionHypothesis =>
        rw [lowerAfter, smallForm_of_ascii (ascii c List.mem_cons_self), inductionHypothesis
          fun other member => ascii other (List.mem_cons_of_mem c member)]
        rfl
  exact lowers []

/-- A text of small ASCII characters is its own small form. -/
theorem lower_of_small
    {text : List Char}
    (small : ∀ c ∈ text, c.toNat < 0x80 ∧ c.toLower = c) :
    lower text = text := by
  have same : text.map Char.toLower = text.map id :=
    List.map_congr_left fun c member => (small c member).2
  rw [lower_of_ascii fun c member => (small c member).1, same, List.map_id]

/-- Digits are small. -/
theorem small_of_isDigit
    {c : Char}
    (digit : c.isDigit = true) :
    c.toNat < 0x80 ∧ c.toLower = c := by
  have bounds := Char.isDigit_iff_toNat.mp digit
  refine ⟨Nat.lt_of_le_of_lt bounds.2 (by decide), dif_neg ?_⟩
  rintro ⟨capital, -⟩
  exact absurd (Nat.le_trans capital bounds.2) (by decide)

/-- Only `İ` has a small form of two characters. -/
theorem length_smallForm
    (before : List Char)
    (c : Char)
    (after : List Char) :
    (smallForm before c after).length = 1 + [c].count 'İ' := by
  unfold smallForm
  split
  · next isSigma =>
    rw [isSigma]
    split <;> rfl
  · split
    · next isDotted =>
      rw [isDotted]
      rfl
    · next plain =>
      simp [plain]

/-- The small form is longer than the text by one for each capital I with a dot. -/
theorem length_lower (text : List Char) :
    (lower text).length = text.length + text.count 'İ' := by
  have lengthens (before : List Char) :
      (lowerAfter before text).length = text.length + text.count 'İ' := by
    induction text generalizing before with
    | nil =>
        rfl
    | cons c after inductionHypothesis =>
        have counted : (c :: after).count 'İ' = [c].count 'İ' + after.count 'İ' := by
          rw [← List.singleton_append, List.count_append]
        rw [lowerAfter, List.length_append, length_smallForm, inductionHypothesis, counted,
          List.length_cons]
        omega
  exact lengthens []

/-- What is left of a text has another small form, unless all of it is left. -/
theorem eq_of_lower_eq
    {part text : List Char}
    (isPart : part.Sublist text)
    (same : lower part = lower text) :
    part = text := by
  have lengths := congrArg List.length same
  rw [length_lower, length_lower] at lengths
  have counts : part.count 'İ' ≤ text.count 'İ' := isPart.count_le 'İ'
  exact isPart.eq_of_length_le (by omega)

end SceneEditor.Text

namespace SceneEditor

/-- Lowered texts are equal exactly if their characters are. -/
theorem lowered_eq_iff {first second : String} :
    lowered first = lowered second ↔ Text.lower first.toList = Text.lower second.toList :=
  String.ofList_inj

end SceneEditor
