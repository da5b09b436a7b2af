import Mathlib.Data.List.Forall2
import SceneEditor.Proofs.Text.Blank
import SceneEditor.Proofs.Text.SmallLetters

namespace SceneEditor.Text

/-!
# Texts that differ in the case of letters

The case of the ASCII letters of a text decides neither what is trimmed off it nor what its small form
is, not even which small sigma a capital one becomes.  A trimmed text stays trimmed in small
letters, and what is a character up to the small f there was an ASCII character before.
-/

/-- An ASCII letter in the other case; any other character as it is. -/
def otherCase (c : Char) : Char :=
  if c.isUpper then c.toLower else c.toUpper

/-- The texts differ in nothing but the case of some ASCII letters. -/
def AlikeInCase (first second : List Char) : Prop :=
  List.Forall₂ (fun c other => other = c ∨ other = otherCase c) first second

/-!
## One character
-/

/-- What holds of the capital ASCII letters and of what has no small letter there holds of all. -/
theorem forall_of_capitals
    (property : Char → Prop)
    (capitals : ∀ code < 0x5B, 0x41 ≤ code → property (Char.ofNat code))
    (others : ∀ c : Char, c.toLower = c → property c)
    (c : Char) :
    property c := by
  by_cases capital : 0x41 ≤ c.toNat ∧ c.toNat ≤ 0x5A
  · exact of_codes property capitals capital.1 (Nat.lt_succ_of_le capital.2)
  · exact others c (dif_neg capital)

theorem toLower_toLower (c : Char) :
    c.toLower.toLower = c.toLower :=
  forall_of_capitals (fun c => c.toLower.toLower = c.toLower) (by decide)
    (fun _ small => congrArg Char.toLower small) c

theorem toLower_of_not_ascii
    {c : Char}
    (beyond : ¬ c.toNat < 0x80) :
    c.toLower = c := by
  refine dif_neg ?_
  rintro ⟨-, last⟩
  exact beyond (Nat.lt_of_le_of_lt last (by decide))

/-- The other case of a letter has the same small letter. -/
theorem toLower_otherCase (c : Char) :
    (otherCase c).toLower = c.toLower := by
  by_cases ascii : c.toNat < 0x80
  · exact of_ascii (fun c => (otherCase c).toLower = c.toLower) (by decide) ascii
  · have notSmall : c.toUpper = c := by
      refine dif_neg ?_
      rintro ⟨-, last⟩
      exact ascii (Nat.lt_of_le_of_lt last (by decide))
    have notCapital := toLower_of_not_ascii ascii
    rw [otherCase, notCapital, notSmall, ite_self, notCapital]

/-- Ranges that do not tell the plain letters of both cases apart hold a character with its small
letter. -/
theorem contains_toLower
    (ranges : CodeRanges)
    (letters :
      ∀ code < 0x5B, 0x41 ≤ code →
        ranges.contains (Char.ofNat code).toLower = ranges.contains (Char.ofNat code))
    (c : Char) :
    ranges.contains c.toLower = ranges.contains c :=
  forall_of_capitals (fun c => ranges.contains c.toLower = ranges.contains c) letters
    (fun _ small => congrArg ranges.contains small) c

/-- A character is a blank exactly if its small letter is one. -/
theorem isBlank_toLower (c : Char) :
    isBlank c.toLower = isBlank c :=
  contains_toLower blankRanges (by decide) c

/-- A character has a case exactly if its small letter has one. -/
theorem cased_toLower (c : Char) :
    casedRanges.contains c.toLower = casedRanges.contains c :=
  contains_toLower casedRanges (by decide +kernel) c

/-- Ranges beside a run of codes hold none of its characters. -/
theorem contains_eq_false
    {ranges : CodeRanges}
    {low high : Nat}
    (apart : ∀ range ∈ ranges, range.2 < low ∨ high < range.1)
    {c : Char}
    (fromLow : low ≤ c.toNat)
    (toHigh : c.toNat ≤ high) :
    ranges.contains c = false := by
  rw [CodeRanges.contains, List.any_eq_false]
  rintro ⟨first, last⟩ member
  have beside := apart (first, last) member
  simp only [Bool.and_eq_true, decide_eq_true_eq, not_and]
  omega

/-- No ASCII letter is transparent, so the ranges are compared with the letters and not searched. -/
theorem transparent_toLower (c : Char) :
    transparentRanges.contains c.toLower = transparentRanges.contains c := by
  have noCapital : ∀ range ∈ transparentRanges, range.2 < 0x41 ∨ 0x5A < range.1 := by
    decide +kernel
  have noSmall : ∀ range ∈ transparentRanges, range.2 < 0x61 ∨ 0x7A < range.1 := by
    decide +kernel
  by_cases capital : 0x41 ≤ c.toNat ∧ c.toNat ≤ 0x5A
  · have small : 0x61 ≤ c.toLower.toNat ∧ c.toLower.toNat ≤ 0x7A :=
      of_codes (fun c => 0x61 ≤ c.toLower.toNat ∧ c.toLower.toNat ≤ 0x7A) (by decide) capital.1
        (Nat.lt_succ_of_le capital.2)
    rw [contains_eq_false noCapital capital.1 capital.2, contains_eq_false noSmall small.1 small.2]
  · exact congrArg transparentRanges.contains (dif_neg capital)

/-!
## Texts whose ASCII letters are small
-/

theorem meetsCased_map_toLower (text : List Char) :
    meetsCased (text.map Char.toLower) = meetsCased text := by
  have same : transparentRanges.contains ∘ Char.toLower = transparentRanges.contains :=
    funext transparent_toLower
  rw [meetsCased, meetsCased, List.dropWhile_map, same]
  cases text.dropWhile transparentRanges.contains with
  | nil =>
      rfl
  | cons c _ =>
      exact cased_toLower c

/-- The small form does not depend on the case of the plain letters. -/
theorem smallForm_map_toLower
    (before : List Char)
    (c : Char)
    (after : List Char) :
    smallForm (before.map Char.toLower) c.toLower (after.map Char.toLower) =
      smallForm before c after := by
  by_cases ascii : c.toNat < 0x80
  · have staysAscii : c.toLower.toNat < 0x80 := by
      refine forall_of_capitals (fun c => c.toNat < 0x80 → c.toLower.toNat < 0x80) (by decide)
        (fun c small ascii => ?_) c ascii
      rwa [small]
    rw [smallForm_of_ascii staysAscii, smallForm_of_ascii ascii, toLower_toLower]
  · rw [toLower_of_not_ascii ascii, smallForm, smallForm, meetsCased_map_toLower,
      meetsCased_map_toLower]

/-- Lowering the plain letters first changes nothing. -/
theorem lower_map_toLower (text : List Char) :
    lower (text.map Char.toLower) = lower text := by
  have lowers (before : List Char) :
      lowerAfter (before.map Char.toLower) (text.map Char.toLower) = lowerAfter before text := by
    induction text generalizing before with
    | nil =>
        rfl
    | cons c after inductionHypothesis =>
        rw [List.map_cons, lowerAfter, lowerAfter, smallForm_map_toLower, ← List.map_cons,
          inductionHypothesis]
  exact lowers []

/-- Trimming and lowering the plain letters commute. -/
theorem trim_map_toLower (text : List Char) :
    trim (text.map Char.toLower) = (trim text).map Char.toLower := by
  have same : isBlank ∘ Char.toLower = isBlank :=
    funext isBlank_toLower
  rw [trim, trim, trimWhile, trimWhile, dropEndWhile, dropEndWhile, List.dropWhile_map, same,
    ← List.map_reverse, List.dropWhile_map, same, List.map_reverse]

/-- Texts that differ in the case of plain letters only have the same small letters. -/
theorem AlikeInCase.map_toLower
    {first second : List Char}
    (alike : AlikeInCase first second) :
    first.map Char.toLower = second.map Char.toLower := by
  induction alike with
  | nil =>
      rfl
  | @cons c other _ _ same _ inductionHypothesis =>
      have sameLetter : c.toLower = other.toLower := by
        rcases same with rfl | rfl
        · rfl
        · exact (toLower_otherCase c).symm
      rw [List.map_cons, List.map_cons, sameLetter, inductionHypothesis]

/-- Texts that differ in the case of ASCII letters are one when trimmed and put in small letters. -/
theorem AlikeInCase.lower_trim_eq
    {first second : List Char}
    (alike : AlikeInCase first second) :
    lower (trim first) = lower (trim second) := by
  rw [← lower_map_toLower (trim first), ← lower_map_toLower (trim second), ← trim_map_toLower,
    ← trim_map_toLower, alike.map_toLower]

/-!
## Small forms
-/

/-- The small form of what is no blank holds no blank. -/
theorem isBlank_of_mem_smallForm
    {before after : List Char}
    {c small : Char}
    (visible : isBlank c = false)
    (member : small ∈ smallForm before c after) :
    isBlank small = false := by
  rw [smallForm] at member
  split at member
  · split at member
    · rw [List.mem_singleton.mp member]
      decide
    · rw [List.mem_singleton.mp member]
      decide
  · split at member
    · rcases List.mem_cons.mp member with rfl | member
      · decide
      · rw [List.mem_singleton.mp member]
        decide
    · rw [List.mem_singleton.mp member]
      by_cases isCapital : IsCapital c
      · have apart :
            ∀ run ∈ capitalRuns, ∀ range ∈ blankRanges,
              range.2 < run.smallFirst ∨ run.smallLast < range.1 := by
          decide +kernel
        obtain ⟨run, isRun, -, -, fromFirst, toLast⟩ := toNat_smallLetter isCapital
        exact contains_eq_false (apart run isRun) fromFirst toLast
      · rw [smallLetter_of_not_isCapital isCapital]
        exact visible

/-- What is a character up to the small f in a small form was an ASCII character. -/
theorem ascii_of_mem_smallForm
    {before after : List Char}
    {c small : Char}
    (early : small.toNat ≤ 0x66)
    (member : small ∈ smallForm before c after) :
    c.toNat < 0x80 := by
  by_contra beyond
  have other {letter : Char} (late : 0x66 < letter.toNat) : small ≠ letter := by
    rintro rfl
    exact absurd early (Nat.not_le.mpr late)
  rw [smallForm] at member
  split at member
  · split at member
    · exact other (by decide) (List.mem_singleton.mp member)
    · exact other (by decide) (List.mem_singleton.mp member)
  · split at member
    · rcases List.mem_cons.mp member with isLetter | isDot
      · exact other (by decide) isLetter
      · exact other (by decide) (List.mem_singleton.mp isDot)
    · have same := List.mem_singleton.mp member
      by_cases isCapital : IsCapital c
      · have late : ∀ run ∈ capitalRuns, run.last < 0x80 ∨ 0x66 < run.smallFirst := by
          decide +kernel
        obtain ⟨run, isRun, holds, -, fromFirst, -⟩ := toNat_smallLetter isCapital
        rcases late run isRun with ascii | behind
        · exact beyond (Nat.lt_of_le_of_lt holds.2.1 ascii)
        · exact other (Nat.lt_of_lt_of_le behind fromFirst) same
      · rw [smallLetter_of_not_isCapital isCapital] at same
        exact beyond (by rw [← same]; omega)

/-- A text whose small form has no character beyond the small f is one of ASCII characters. -/
theorem ascii_of_lower
    {text : List Char}
    (early : ∀ small ∈ lower text, small.toNat ≤ 0x66) :
    ∀ c ∈ text, c.toNat < 0x80 := by
  rw [lower] at early
  generalize [] = before at early
  induction text generalizing before with
  | nil =>
      exact List.forall_mem_nil _
  | cons c after inductionHypothesis =>
      obtain ⟨inForm, behind⟩ := List.forall_mem_append.mp early
      obtain ⟨small, others, form⟩ := List.exists_cons_of_ne_nil (smallForm_ne_nil before c after)
      have member : small ∈ smallForm before c after := by
        rw [form]
        exact List.mem_cons_self
      exact List.forall_mem_cons.mpr
        ⟨ascii_of_mem_smallForm (inForm small member) member, inductionHypothesis _ behind⟩

theorem lower_ne_nil
    {text : List Char}
    (filled : text ≠ []) :
    lower text ≠ [] := by
  obtain ⟨c, after, rfl⟩ := List.exists_cons_of_ne_nil filled
  exact List.append_ne_nil_of_left_ne_nil (smallForm_ne_nil [] c after) _

/-- The last character of a small form comes from the last character of the text. -/
theorem mem_smallForm_of_getLast?
    {before text : List Char}
    {small : Char}
    (last : (lowerAfter before text).getLast? = some small) :
    ∃ front c, text.getLast? = some c ∧ small ∈ smallForm front c [] := by
  induction text generalizing before with
  | nil =>
      exact absurd last (by simp [lowerAfter])
  | cons c after inductionHypothesis =>
      cases after with
      | nil =>
          rw [lowerAfter, lowerAfter, List.append_nil] at last
          exact ⟨before, c, rfl, List.mem_of_getLast? last⟩
      | cons next others =>
          have filled : lowerAfter (c :: before) (next :: others) ≠ [] :=
            List.append_ne_nil_of_left_ne_nil (smallForm_ne_nil _ next others) _
          rw [lowerAfter, List.getLast?_append_of_ne_nil _ filled] at last
          obtain ⟨front, final, isLast, member⟩ := inductionHypothesis last
          exact ⟨front, final, by rw [List.getLast?_cons_cons]; exact isLast, member⟩

/-- A trimmed text is trimmed in small letters, too. -/
theorem IsTrimmed.lower
    {text : List Char}
    (isTrimmed : IsTrimmed text) :
    IsTrimmed (lower text) := by
  constructor
  · intro small first
    cases text with
    | nil =>
        exact absurd first (by simp [Text.lower, lowerAfter])
    | cons c after =>
        rw [Text.lower, lowerAfter, List.head?_append_of_ne_nil _ (smallForm_ne_nil [] c after)]
          at first
        exact isBlank_of_mem_smallForm (isTrimmed.front c rfl) (List.mem_of_mem_head? first)
  · intro small last
    obtain ⟨front, c, isLast, member⟩ := mem_smallForm_of_getLast? last
    exact isBlank_of_mem_smallForm (isTrimmed.back c isLast) member

end SceneEditor.Text
