import SceneEditor.Link.Frame

namespace SceneEditor.Header

/-!
# Escaped headers

A character is escaped to itself or to a backslash and a letter that stands for it.  So an escaped
text holds no line end and no colon, and unescaping takes back what escaping wrote.
-/

/-- The character can stand in a header line as it is, and is no mark of the line. -/
def IsPlain (c : Char) : Prop :=
  c ≠ '\r' ∧ c ≠ '\n' ∧ c ≠ ':'

/-- The two ways to escape a character: by a letter that stands for it, or not at all. -/
theorem escapeChar_cases (c : Char) :
    (∃ letter,
      escapeChar c = ['\\', letter] ∧ escaped? letter = some c ∧ IsPlain letter) ∨
      (escapeChar c = [c] ∧ c ≠ '\\' ∧ IsPlain c) := by
  unfold escapeChar
  split
  · exact Or.inl ⟨'\\', rfl, rfl, by simp [IsPlain]⟩
  · exact Or.inl ⟨'r', rfl, rfl, by simp [IsPlain]⟩
  · exact Or.inl ⟨'n', rfl, rfl, by simp [IsPlain]⟩
  · exact Or.inl ⟨'c', rfl, rfl, by simp [IsPlain]⟩
  · next notBackslash notReturn notFeed notColon =>
    exact Or.inr ⟨rfl, notBackslash, notReturn, notFeed, notColon⟩

theorem escape_cons
    (c : Char)
    (text : List Char) :
    escape (c :: text) = escapeChar c ++ escape text := by
  simp [escape]

/-- An escaped text holds no line end and no colon. -/
theorem isPlain_of_mem_escape
    {c : Char}
    {text : List Char}
    (member : c ∈ escape text) :
    IsPlain c := by
  obtain ⟨source, _, written⟩ := List.mem_flatMap.mp member
  rcases escapeChar_cases source with
      ⟨letter, shape, _, letterPlain⟩ | ⟨shape, _, sourcePlain⟩
  · rw [shape] at written
    rcases List.mem_cons.mp written with isBackslash | isLetter
    · subst c
      simp [IsPlain]
    · rw [List.mem_singleton.mp isLetter]
      exact letterPlain
  · rw [shape] at written
    rw [List.mem_singleton.mp written]
    exact sourcePlain

/-- A character other than a backslash stands for itself. -/
theorem unescape?_cons_of_ne
    {c : Char}
    (notBackslash : c ≠ '\\')
    (text : List Char) :
    unescape? (c :: text) = (unescape? text).map (c :: ·) := by
  cases text <;> simp [unescape?, notBackslash]

/-- Unescaping takes back what escaping wrote. -/
theorem unescape?_escape (text : List Char) :
    unescape? (escape text) = some text := by
  induction text with
  | nil =>
      rfl
  | cons c text inductionHypothesis =>
      rw [escape_cons]
      rcases escapeChar_cases c with
          ⟨letter, shape, meaning, _⟩ | ⟨shape, notBackslash, _⟩
      · simp [shape, unescape?, meaning, inductionHypothesis]
      · rw [shape, List.singleton_append, unescape?_cons_of_ne notBackslash,
          inductionHypothesis]
        rfl

/-- An escaped name or value is read as what it was. -/
theorem unescape_escape (text : String) :
    unescape (String.ofList (escape text.toList)) = .ok text := by
  simp [unescape, unescape?_escape]

end SceneEditor.Header
