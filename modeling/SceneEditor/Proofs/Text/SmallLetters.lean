import SceneEditor.Proofs.Text.LetterCase

namespace SceneEditor.Text

/-!
# Small letters

What a capital letter becomes is no capital letter again.  So a text that was put in small letters,
and every part of it, is its own small form.
-/

namespace CapitalRun

/-- The code point is one of the run. -/
def Holds (run : CapitalRun) (code : Nat) : Prop :=
  run.first ≤ code ∧ code ≤ run.last ∧ (code - run.first) % run.step = 0

/-- The small letter of the first capital of the run. -/
def smallFirst (run : CapitalRun) : Nat :=
  (run.first + run.distance).toNat

/-- The small letter of the last capital of the run. -/
def smallLast (run : CapitalRun) : Nat :=
  (run.last + run.distance).toNat

/-- The small letters of the run lie beside the other run, or between two of its capitals. -/
def misses (run other : CapitalRun) : Bool :=
  Nat.blt run.smallLast other.first || Nat.blt other.last run.smallFirst ||
    (other.step == 2 && (run.step == 2 || run.first == run.last) &&
      (run.smallFirst + other.first) % 2 == 1)

/-- The small letters of the run are characters, and none of them is the capital I with a dot. -/
structure IsProper (run : CapitalRun) : Prop where
  written : 0 ≤ run.first + run.distance
  valid : run.smallLast < 0xD800 ∨ 0xDFFF < run.smallFirst ∧ run.smallLast < 0x110000
  undotted : run.smallLast < 0x130 ∨ 0x130 < run.smallFirst

theorem misses_of_mem :
    (capitalRuns.all fun run => capitalRuns.all run.misses) = true := by
  decide +kernel

/-- Each run of the table is proper. -/
theorem isProper_of_mem : ∀ run ∈ capitalRuns, run.IsProper := by
  have checked :
      ∀ run ∈ capitalRuns,
        0 ≤ run.first + run.distance ∧
          (run.smallLast < 0xD800 ∨ 0xDFFF < run.smallFirst ∧ run.smallLast < 0x110000) ∧
          (run.smallLast < 0x130 ∨ 0x130 < run.smallFirst) := by
    decide +kernel
  intro run member
  obtain ⟨written, valid, undotted⟩ := checked run member
  exact ⟨written, valid, undotted⟩

/-- The small letter of a capital of the run is no capital of the other. -/
theorem not_holds_of_misses
    {run other : CapitalRun}
    (misses : run.misses other = true)
    (isProper : run.IsProper)
    {code : Nat}
    (holds : run.Holds code) :
    ¬ other.Holds (code + run.distance).toNat := by
  rintro ⟨fromFirst, toLast, inStep⟩
  obtain ⟨first, last, step⟩ := holds
  have written := isProper.written
  simp only [CapitalRun.misses, smallFirst, smallLast, Nat.blt_eq, Bool.or_eq_true, Bool.and_eq_true,
    beq_iff_eq] at misses
  rcases misses with (below | above) | ⟨⟨everySecond, sameStep⟩, odd⟩
  · omega
  · omega
  · -- between two capitals of the other run: the distance to its first one is odd
    rw [everySecond] at inStep
    rcases sameStep with sameStep | single
    · rw [sameStep] at step
      omega
    · omega

end CapitalRun

/-!
## One letter
-/

/-- The character is a capital letter of a run. -/
def IsCapital (c : Char) : Prop :=
  ∃ run ∈ capitalRuns, run.Holds c.toNat

/-- A character that is no capital is its own small letter. -/
theorem smallLetter_of_not_isCapital
    {c : Char}
    (noCapital : ¬ IsCapital c) :
    smallLetter c = c := by
  rw [smallLetter]
  split
  · refine dif_neg ?_
    rintro ⟨capital, last⟩
    exact noCapital ⟨⟨0x41, 0x5A, 1, 32⟩, List.mem_cons_self, capital, last, Nat.mod_one _⟩
  · dsimp only
    split
    · next run found =>
      have holds := List.find?_some found
      simp only [Bool.and_eq_true, decide_eq_true_eq, beq_iff_eq] at holds
      exact absurd ⟨run, List.mem_of_find?_eq_some found, holds.1.1, holds.1.2, holds.2⟩ noCapital
    · rfl

/-- A capital letter becomes the small letter of a run that holds it. -/
theorem smallLetter_of_isCapital
    {c : Char}
    (isCapital : IsCapital c) :
    ∃ run ∈ capitalRuns,
      run.Holds c.toNat ∧ smallLetter c = Char.ofNat (c.toNat + run.distance).toNat := by
  obtain ⟨run, member, holds⟩ := isCapital
  rw [smallLetter]
  split
  · next ascii =>
    -- no other run has capitals among the ASCII characters
    have onlyRun : ∀ run ∈ capitalRuns, run = ⟨0x41, 0x5A, 1, 32⟩ ∨ 0x80 ≤ run.first := by
      decide +kernel
    rcases onlyRun run member with rfl | beyond
    · have becomes :
          ∀ code < 0x5B, 0x41 ≤ code →
            (Char.ofNat code).toLower = Char.ofNat ((code : Int) + 32).toNat := by
        decide
      have small := becomes c.toNat (Nat.lt_succ_of_le holds.2.1) holds.1
      rw [Char.ofNat_toNat] at small
      exact ⟨_, member, holds, small⟩
    · exact absurd holds.1 (by omega)
  · next beyond =>
    dsimp only
    split
    · next other found =>
      have otherHolds := List.find?_some found
      simp only [Bool.and_eq_true, decide_eq_true_eq, beq_iff_eq] at otherHolds
      exact ⟨other, List.mem_of_find?_eq_some found,
        ⟨otherHolds.1.1, otherHolds.1.2, otherHolds.2⟩, rfl⟩
    · next missing =>
      have notFound := List.find?_eq_none.mp missing run member
      obtain ⟨fromFirst, toLast, inStep⟩ := holds
      exact absurd notFound (by simp [fromFirst, toLast, inStep])

/-- The character is its own small form, wherever it stands. -/
structure IsSmall (c : Char) : Prop where
  noCapital : ¬ IsCapital c
  undotted : c ≠ 'İ'

/-- A small character is its own small form, whatever stands around it. -/
theorem IsSmall.smallForm_eq
    {c : Char}
    (isSmall : IsSmall c)
    (before after : List Char) :
    smallForm before c after = [c] := by
  have notSigma : c ≠ 'Σ' := by
    rintro rfl
    refine isSmall.noCapital ⟨⟨0x3A3, 0x3AB, 1, 32⟩, ?_, ?_⟩
    · decide +kernel
    · exact ⟨by decide, by decide, by decide⟩
  rw [smallForm, if_neg notSigma, if_neg isSmall.undotted,
    smallLetter_of_not_isCapital isSmall.noCapital]

/-- The small letter of a capital is one of the small letters of a run. -/
theorem toNat_smallLetter
    {c : Char}
    (isCapital : IsCapital c) :
    ∃ run ∈ capitalRuns,
      run.Holds c.toNat ∧ (smallLetter c).toNat = (c.toNat + run.distance).toNat ∧
        run.smallFirst ≤ (smallLetter c).toNat ∧ (smallLetter c).toNat ≤ run.smallLast := by
  obtain ⟨run, member, holds, small⟩ := smallLetter_of_isCapital isCapital
  have bounds :
      run.smallFirst ≤ (c.toNat + run.distance).toNat ∧
        (c.toNat + run.distance).toNat ≤ run.smallLast := by
    obtain ⟨fromFirst, toLast, -⟩ := holds
    rw [CapitalRun.smallFirst, CapitalRun.smallLast]
    omega
  have valid : (c.toNat + run.distance).toNat.isValidChar := by
    rcases (CapitalRun.isProper_of_mem run member).valid with below | ⟨above, inside⟩
    · exact Or.inl (Nat.lt_of_le_of_lt bounds.2 below)
    · exact Or.inr ⟨Nat.lt_of_lt_of_le above bounds.1, Nat.lt_of_le_of_lt bounds.2 inside⟩
  have place : (smallLetter c).toNat = (c.toNat + run.distance).toNat := by
    rw [small, Char.ofNat, dif_pos valid]
    rfl
  rw [place]
  exact ⟨run, member, holds, rfl, bounds⟩

/-- A small letter that takes the place of a capital is small. -/
theorem isSmall_smallLetter
    {c : Char}
    (undotted : c ≠ 'İ') :
    IsSmall (smallLetter c) := by
  by_cases isCapital : IsCapital c
  · obtain ⟨run, member, holds, place, fromFirst, toLast⟩ := toNat_smallLetter isCapital
    have isProper := CapitalRun.isProper_of_mem run member
    have checked := List.all_eq_true.mp CapitalRun.misses_of_mem run member
    constructor
    · rintro ⟨other, otherMember, otherHolds⟩
      rw [place] at otherHolds
      have misses := List.all_eq_true.mp checked other otherMember
      exact CapitalRun.not_holds_of_misses misses isProper holds otherHolds
    · intro dotted
      have code : 'İ'.toNat = 0x130 := rfl
      rw [dotted, code] at fromFirst toLast
      rcases isProper.undotted with below | above <;> omega
  · rw [smallLetter_of_not_isCapital isCapital]
    exact ⟨isCapital, undotted⟩

/-- A character in front of the small letters is the small form of no other character. -/
theorem smallForm_of_mem
    {mark c : Char}
    (isMark : mark.toNat < 0x61)
    {before after : List Char}
    (member : mark ∈ smallForm before c after) :
    c = mark ∧ smallForm before c after = [mark] := by
  have other {small : Char} (beyond : 0x61 ≤ small.toNat) : mark ≠ small := by
    rintro rfl
    exact absurd isMark (Nat.not_lt.mpr beyond)
  rw [smallForm] at member ⊢
  split at member
  · split at member
    · exact absurd (List.mem_singleton.mp member) (other (by decide))
    · exact absurd (List.mem_singleton.mp member) (other (by decide))
  · next notSigma =>
    split at member
    · rcases List.mem_cons.mp member with isLetter | isDot
      · exact absurd isLetter (other (by decide))
      · exact absurd (List.mem_singleton.mp isDot) (other (by decide))
    · next undotted =>
      have same := List.mem_singleton.mp member
      have noCapital : ¬ IsCapital c := by
        intro isCapital
        have behind : ∀ run ∈ capitalRuns, 0x61 ≤ run.smallFirst := by decide +kernel
        obtain ⟨run, isRun, -, -, fromFirst, -⟩ := toNat_smallLetter isCapital
        exact other (Nat.le_trans (behind run isRun) fromFirst) same
      rw [smallLetter_of_not_isCapital noCapital] at same ⊢
      rw [if_neg notSigma, if_neg undotted, same]
      exact ⟨rfl, rfl⟩

/-!
## Texts
-/

/-- A small form is made of small characters. -/
theorem isSmall_of_mem_smallForm
    {before after : List Char}
    {c small : Char}
    (member : small ∈ smallForm before c after) :
    IsSmall small := by
  have isSmall {other : Char} (undotted : other ≠ 'İ') (same : smallLetter other = other) :
      IsSmall other := by
    rw [← same]
    exact isSmall_smallLetter undotted
  rw [smallForm] at member
  split at member
  · split at member
    · obtain rfl := List.mem_singleton.mp member
      exact isSmall (by decide) (by decide +kernel)
    · obtain rfl := List.mem_singleton.mp member
      exact isSmall (by decide) (by decide +kernel)
  · split at member
    · rcases List.mem_cons.mp member with rfl | member
      · exact isSmall (by decide) (by decide +kernel)
      · obtain rfl := List.mem_singleton.mp member
        exact isSmall (by decide) (by decide +kernel)
    · next undotted =>
      obtain rfl := List.mem_singleton.mp member
      exact isSmall_smallLetter undotted

/-- A text in small letters has no others. -/
theorem isSmall_of_mem_lower
    {text : List Char}
    {small : Char}
    (member : small ∈ lower text) :
    IsSmall small := by
  rw [lower] at member
  generalize [] = before at member
  induction text generalizing before with
  | nil =>
      exact absurd member List.not_mem_nil
  | cons c after inductionHypothesis =>
      rcases List.mem_append.mp member with first | later
      · exact isSmall_of_mem_smallForm first
      · exact inductionHypothesis (c :: before) later

/-- A text of small letters is its own small form. -/
theorem lower_of_isSmall
    {text : List Char}
    (areSmall : ∀ c ∈ text, IsSmall c) :
    lower text = text := by
  have same (before : List Char) : lowerAfter before text = text := by
    induction text generalizing before with
    | nil =>
        rfl
    | cons c after inductionHypothesis =>
        rw [lowerAfter, (areSmall c List.mem_cons_self).smallForm_eq,
          inductionHypothesis fun other member => areSmall other (List.mem_cons_of_mem c member)]
        rfl
  exact same []

/-- A small character stays where it is in a text that is put in small letters. -/
theorem mem_lower_of_isSmall
    {c : Char}
    (isSmall : IsSmall c)
    {text : List Char}
    (member : c ∈ text) :
    c ∈ lower text := by
  rw [lower]
  generalize [] = before
  induction text generalizing before with
  | nil =>
      exact absurd member List.not_mem_nil
  | cons first after inductionHypothesis =>
      rw [lowerAfter]
      rcases List.mem_cons.mp member with rfl | later
      · rw [isSmall.smallForm_eq]
        exact List.mem_append_left _ List.mem_cons_self
      · exact List.mem_append_right _ (inductionHypothesis later (first :: before))

theorem smallForm_ne_nil
    (before : List Char)
    (c : Char)
    (after : List Char) :
    smallForm before c after ≠ [] := by
  intro nothing
  have length := length_smallForm before c after
  rw [nothing, List.length_nil] at length
  omega

/-- Marks at the front of a text in small letters are at the front of the text itself. -/
theorem isPrefix_of_lowerAfter
    {marks : List Char}
    (areMarks : ∀ mark ∈ marks, mark.toNat < 0x61)
    {before text : List Char}
    (isPrefix : marks <+: lowerAfter before text) :
    marks <+: text := by
  induction marks generalizing before text with
  | nil =>
      exact List.nil_prefix
  | cons mark marks inductionHypothesis =>
      obtain ⟨isMark, othersAreMarks⟩ := List.forall_mem_cons.mp areMarks
      cases text with
      | nil =>
          exact absurd isPrefix (by simp [lowerAfter])
      | cons c after =>
          rw [lowerAfter] at isPrefix
          obtain ⟨first, others, form⟩ :=
            List.exists_cons_of_ne_nil (smallForm_ne_nil before c after)
          have isFirst : mark = first := by
            rw [form, List.cons_append, List.cons_prefix_cons] at isPrefix
            exact isPrefix.1
          obtain ⟨rfl, alone⟩ :=
            smallForm_of_mem isMark (by rw [form, isFirst]; exact List.mem_cons_self)
          rw [alone, List.singleton_append, List.cons_prefix_cons] at isPrefix
          exact List.cons_prefix_cons.mpr ⟨rfl, inductionHypothesis othersAreMarks isPrefix.2⟩

/-- Marks that stand somewhere in a text in small letters stand in the text itself. -/
theorem isInfix_of_lower
    {mark : Char}
    {marks : List Char}
    (areMarks : ∀ c ∈ mark :: marks, c.toNat < 0x61)
    {text : List Char}
    (isInfix : mark :: marks <:+: lower text) :
    mark :: marks <:+: text := by
  rw [lower] at isInfix
  generalize [] = before at isInfix
  induction text generalizing before with
  | nil =>
      exact isInfix
  | cons c after inductionHypothesis =>
      have later (isLater : mark :: marks <:+: lowerAfter (c :: before) after) :
          mark :: marks <:+: c :: after :=
        List.infix_cons (inductionHypothesis _ isLater)
      obtain ⟨front, back, shape⟩ := isInfix
      rw [List.append_assoc, lowerAfter] at shape
      rcases List.append_eq_append_iff.mp shape with ⟨inForm, form, rest⟩ | ⟨between, -, rest⟩
      · cases inForm with
        | nil =>
            exact later ⟨[], back, rest⟩
        | cons first others =>
            -- the first mark stands in the small form of the character, and so is the whole of it
            obtain ⟨rfl, -⟩ := List.cons.inj rest
            have inside : mark ∈ smallForm before c after := by
              rw [form]
              exact List.mem_append_right _ List.mem_cons_self
            obtain ⟨-, alone⟩ := smallForm_of_mem (areMarks mark List.mem_cons_self) inside
            have atFront : front = [] := by
              have lengths := congrArg List.length (alone.symm.trans form)
              rw [List.length_singleton, List.length_append, List.length_cons] at lengths
              exact List.eq_nil_of_length_eq_zero (by omega)
            rw [atFront, List.nil_append, ← lowerAfter] at shape
            exact (isPrefix_of_lowerAfter areMarks ⟨back, shape⟩).isInfix
      · exact later ⟨between, back, by rw [List.append_assoc, rest]⟩

end SceneEditor.Text
