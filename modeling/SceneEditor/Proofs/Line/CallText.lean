import SceneEditor.Line.CallText

namespace SceneEditor.CallText

/-!
# The pieces of a call

What a piece of a call is cut off from, and what is cut off from it again, whatever follows.  A name
can be told from another by one letter of the two that no character stands for at once.
-/

/-- A name that is taken is what the text begins with. -/
theorem eq_append_of_takeName?
    {name text found rest : List Char}
    (taken : takeName? name text = some (found, rest)) :
    text = found ++ rest ∧ found.length = name.length := by
  induction name generalizing text found with
  | nil =>
      obtain ⟨rfl, rfl⟩ := Prod.mk.inj (Option.some.inj taken)
      exact ⟨rfl, rfl⟩
  | cons letter letters inductionHypothesis =>
      cases text with
      | nil =>
          exact absurd taken (by simp [takeName?])
      | cons c text =>
          rw [takeName?] at taken
          split at taken
          · obtain ⟨⟨others, after⟩, takenRest, shape⟩ := Option.map_eq_some_iff.mp taken
            obtain ⟨rfl, rfl⟩ := Prod.mk.inj shape
            obtain ⟨rfl, length⟩ := inductionHypothesis takenRest
            exact ⟨rfl, by rw [List.length_cons, length, List.length_cons]⟩
          · exact absurd taken (by simp)

/-- A name is taken from a text that begins with a letter for its own first letter. -/
theorem standsFor_of_takeName?
    {letter : Char}
    {letters text found rest : List Char}
    (taken : takeName? (letter :: letters) text = some (found, rest)) :
    ∃ c others, text = c :: others ∧ standsFor letter c = true := by
  cases text with
  | nil =>
      exact absurd taken (by simp [takeName?])
  | cons c others =>
      refine ⟨c, others, rfl, ?_⟩
      rw [takeName?] at taken
      split at taken
      · next stands =>
        exact stands
      · exact absurd taken (by simp)

/-- A name is taken again, whatever follows it. -/
theorem takeName?_append
    {name text found rest : List Char}
    (taken : takeName? name text = some (found, rest))
    (other : List Char) :
    takeName? name (found ++ other) = some (found, other) := by
  induction name generalizing text found with
  | nil =>
      obtain ⟨rfl, -⟩ := Prod.mk.inj (Option.some.inj taken)
      rfl
  | cons letter letters inductionHypothesis =>
      cases text with
      | nil =>
          exact absurd taken (by simp [takeName?])
      | cons c text =>
          rw [takeName?] at taken
          split at taken
          · next stands =>
            obtain ⟨⟨others, after⟩, takenRest, shape⟩ := Option.map_eq_some_iff.mp taken
            obtain ⟨rfl, rfl⟩ := Prod.mk.inj shape
            rw [List.cons_append, takeName?, if_pos stands, inductionHypothesis takenRest]
            rfl
          · exact absurd taken (by simp)

/-- Each letter of a name that is taken has its character in the text. -/
theorem exists_standsFor_of_takeName?
    {name text : List Char}
    {taken? : List Char × List Char}
    (taken : takeName? name text = some taken?)
    {place : Nat}
    {letter : Char}
    (placed : name[place]? = some letter) :
    ∃ c, text[place]? = some c ∧ standsFor letter c = true := by
  induction name generalizing text taken? place with
  | nil =>
      exact absurd placed (by simp)
  | cons first letters inductionHypothesis =>
      cases text with
      | nil =>
          exact absurd taken (by simp [takeName?])
      | cons c text =>
          rw [takeName?] at taken
          split at taken
          · next stands =>
            cases place with
            | zero =>
                obtain rfl := Option.some.inj placed
                exact ⟨c, rfl, stands⟩
            | succ place =>
                obtain ⟨rest, takenRest, -⟩ := Option.map_eq_some_iff.mp taken
                exact inductionHypothesis takenRest placed
          · exact absurd taken (by simp)

/-- A letter of the one and a letter of the other name have no character in common. -/
def Differ (name other : List Char) : Prop :=
  ∃ (place : Nat) (letter otherLetter : Char),
    name[place]? = some letter ∧ other[place]? = some otherLetter ∧
      ∀ c, ¬ (standsFor letter c = true ∧ standsFor otherLetter c = true)

/-- Names that differ in a plain letter are never taken for each other. -/
theorem Differ.of_letters
    {name other : List Char}
    {letter otherLetter : Char}
    (place : Nat)
    (placed : name[place]? = some letter)
    (otherPlaced : other[place]? = some otherLetter)
    (different : letter ≠ otherLetter)
    (plain : letter ≠ 'i' ∧ otherLetter ≠ 'i') :
    Differ name other := by
  refine ⟨place, letter, otherLetter, placed, otherPlaced, ?_⟩
  rintro c ⟨stands, otherStands⟩
  simp only [standsFor, plain.1, plain.2, decide_false, Bool.false_and, Bool.or_false,
    decide_eq_true_eq] at stands otherStands
  exact different (stands.symm.trans otherStands)

/-- Where a name is taken, one that differs from it is not. -/
theorem Differ.takeName?_eq_none
    {name other text : List Char}
    {taken? : List Char × List Char}
    (differ : Differ name other)
    (taken : takeName? name text = some taken?) :
    takeName? other text = none := by
  obtain ⟨place, letter, otherLetter, placed, otherPlaced, apart⟩ := differ
  -- both names would claim the character at the place where they differ
  obtain ⟨c, inText, stands⟩ := exists_standsFor_of_takeName? taken placed
  cases otherTaken : takeName? other text with
  | none =>
      rfl
  | some otherTaken? =>
      obtain ⟨d, alsoInText, otherStands⟩ := exists_standsFor_of_takeName? otherTaken otherPlaced
      obtain rfl := Option.some.inj (inText.symm.trans alsoInText)
      exact absurd ⟨stands, otherStands⟩ (apart c)

/-- A mark in front is passed. -/
theorem afterMark?_cons
    {mark : Char}
    (visible : Text.isBlank mark = false)
    (rest : List Char) :
    afterMark? mark (mark :: rest) = some rest := by
  simp [afterMark?, visible]

/-- A blank in front of the mark is passed. -/
theorem afterMark?_cons_of_blank
    {mark c : Char}
    (blank : Text.isBlank c = true)
    (text : List Char) :
    afterMark? mark (c :: text) = afterMark? mark text := by
  rw [afterMark?, afterMark?, List.dropWhile_cons_of_pos blank]

/-- A text is cut before the mark that it holds once. -/
theorem cutBefore?_append
    {mark : Char}
    {before : List Char}
    (absent : mark ∉ before)
    (rest : List Char) :
    cutBefore? mark (before ++ mark :: rest) = some (before, rest) := by
  induction before with
  | nil =>
      simp [cutBefore?]
  | cons c before inductionHypothesis =>
      obtain ⟨different, absent⟩ := List.ne_and_not_mem_of_not_mem_cons absent
      simp [cutBefore?, Ne.symm different, inductionHypothesis absent]

/-- The mark does not stand in front of the cut. -/
theorem notMem_of_cutBefore?
    {mark : Char}
    {text before rest : List Char}
    (cut : cutBefore? mark text = some (before, rest)) :
    mark ∉ before := by
  induction text generalizing before rest with
  | nil =>
      exact absurd cut (by simp [cutBefore?])
  | cons c text inductionHypothesis =>
      rw [cutBefore?] at cut
      split at cut
      · obtain ⟨rfl, -⟩ := Prod.mk.inj (Option.some.inj cut)
        exact List.not_mem_nil
      · next different =>
        obtain ⟨⟨between, after⟩, cutRest, shape⟩ := Option.map_eq_some_iff.mp cut
        obtain ⟨rfl, -⟩ := Prod.mk.inj shape
        exact List.not_mem_cons_of_ne_of_not_mem (Ne.symm different) (inductionHypothesis cutRest)

end SceneEditor.CallText
