import SceneEditor.Text.Characters
import SceneEditor.Text.Cut

namespace SceneEditor.Text

/-!
# Where a text is cut

A mark is found at the first place where it stands, so a stretch that does not hold the first
character of the mark is passed over.  The pieces of a text that was put together from pieces
without the separator are these pieces again.  Trimming drops nothing but characters of its class.
-/

/-- A closed text is checked on its own characters, and not on all that there are. -/
theorem forall_of_all
    {property : Char → Prop}
    [DecidablePred property]
    {text : List Char}
    (checked : (text.all fun c => decide (property c)) = true) :
    ∀ c ∈ text, property c := by
  intro c member
  exact of_decide_eq_true (List.all_eq_true.mp checked c member)

/-- A text in which all is kept stays as it is. -/
theorem trimWhile_of_forall
    {drop : Char → Bool}
    {text : List Char}
    (kept : ∀ c ∈ text, drop c = false) :
    trimWhile drop text = text := by
  have front : text.dropWhile drop = text := by
    cases text with
    | nil =>
        rfl
    | cons c text =>
        simp [kept c List.mem_cons_self]
  have back : text.reverse.dropWhile drop = text.reverse := by
    cases reversed : text.reverse with
    | nil =>
        rfl
    | cons c others =>
        have member : c ∈ text := by
          rw [← List.mem_reverse, reversed]
          exact List.mem_cons_self
        simp [kept c member]
  rw [trimWhile, front, dropEndWhile, back, List.reverse_reverse]

theorem after?_cons_of_ne
    {m c : Char}
    (different : m ≠ c)
    (marks rest : List Char) :
    after? (m :: marks) (c :: rest) = none := by
  simp [after?, different]

/-- Behind a mark stands the rest. -/
@[simp] theorem after?_append
    (mark rest : List Char) :
    after? mark (mark ++ rest) = some rest := by
  induction mark with
  | nil =>
      rfl
  | cons m marks inductionHypothesis =>
      simp [after?, inductionHypothesis]

/-- What a mark and a text begin with alike does not matter. -/
theorem after?_append_append
    (common mark text : List Char) :
    after? (common ++ mark) (common ++ text) = after? mark text := by
  induction common with
  | nil =>
      rfl
  | cons c common inductionHypothesis =>
      simp [after?, inductionHypothesis]

/-- A text with something behind a mark begins with the mark. -/
theorem eq_append_of_after?
    {mark text rest : List Char}
    (found : after? mark text = some rest) :
    text = mark ++ rest := by
  induction mark generalizing text with
  | nil =>
      exact Option.some.inj found
  | cons m marks inductionHypothesis =>
      cases text with
      | nil =>
          exact absurd found (by simp [after?])
      | cons c text =>
          by_cases same : m = c
          · rw [after?, if_pos same] at found
            rw [inductionHypothesis found, same]
            rfl
          · rw [after?_cons_of_ne same] at found
            exact absurd found (by simp)

/-- A mark in front of a text cuts there. -/
theorem cutAt?_append
    (mark rest : List Char) :
    cutAt? mark (mark ++ rest) = some ([], rest) := by
  cases text : mark ++ rest with
  | nil =>
      obtain ⟨rfl, rfl⟩ := List.append_eq_nil_iff.mp text
      rfl
  | cons c tail =>
      have found : after? mark (c :: tail) = some rest := by
        rw [← text, after?_append]
      simp [cutAt?, found]

/-- A character that does not begin the mark stands before the cut. -/
theorem cutAt?_cons_of_ne
    {m c : Char}
    (different : m ≠ c)
    (marks text : List Char) :
    cutAt? (m :: marks) (c :: text) =
      (cutAt? (m :: marks) text).map fun (before, rest) => (c :: before, rest) := by
  simp [cutAt?, after?_cons_of_ne different]

/-- A stretch without the first character of the mark is passed over. -/
theorem cutAt?_append_of_notMem
    {m : Char}
    (marks : List Char)
    {before : List Char}
    (absent : m ∉ before)
    (text : List Char) :
    cutAt? (m :: marks) (before ++ text) =
      (cutAt? (m :: marks) text).map fun (between, rest) => (before ++ between, rest) := by
  induction before with
  | nil =>
      simp
  | cons c before inductionHypothesis =>
      obtain ⟨different, absent⟩ := List.ne_and_not_mem_of_not_mem_cons absent
      rw [List.cons_append, cutAt?_cons_of_ne different, inductionHypothesis absent,
        Option.map_map]
      rfl

/-- A mark of one character cuts where that character first stands. -/
theorem cutAt?_single
    {m : Char}
    {before : List Char}
    (absent : m ∉ before)
    (rest : List Char) :
    cutAt? [m] (before ++ m :: rest) = some (before, rest) := by
  have found : cutAt? [m] (m :: rest) = some ([], rest) :=
    cutAt?_append [m] rest
  rw [cutAt?_append_of_notMem [] absent, found]
  simp

/-- A mark is not found where its first character is missing. -/
theorem cutAt?_eq_none_of_notMem
    {m : Char}
    (marks : List Char)
    {text : List Char}
    (absent : m ∉ text) :
    cutAt? (m :: marks) text = none := by
  have passed := cutAt?_append_of_notMem marks absent []
  rw [List.append_nil] at passed
  rw [passed]
  rfl

/-- What a cut leaves is the text again, with the mark between both parts. -/
theorem eq_append_of_cutAt?
    {mark text before rest : List Char}
    (found : cutAt? mark text = some (before, rest)) :
    text = before ++ (mark ++ rest) := by
  induction text generalizing before with
  | nil =>
      obtain ⟨tail, behind, shape⟩ := Option.map_eq_some_iff.mp found
      obtain ⟨rfl, rfl⟩ := Prod.mk.inj shape
      rw [List.nil_append]
      exact eq_append_of_after? behind
  | cons c text inductionHypothesis =>
      rw [cutAt?] at found
      split at found
      · next tail behind =>
        obtain ⟨rfl, rfl⟩ := Prod.mk.inj (Option.some.inj found)
        rw [List.nil_append]
        exact eq_append_of_after? behind
      · obtain ⟨⟨between, tail⟩, cut, shape⟩ := Option.map_eq_some_iff.mp found
        obtain ⟨rfl, rfl⟩ := Prod.mk.inj shape
        rw [inductionHypothesis cut]
        rfl

/-- A mark occurs in a text exactly if it is an infix of it. -/
theorem occurs_iff_isInfix (mark text : List Char) :
    occurs mark text = true ↔ mark <:+: text := by
  constructor
  · intro occurs
    obtain ⟨⟨before, rest⟩, cut⟩ := Option.isSome_iff_exists.mp occurs
    refine ⟨before, rest, ?_⟩
    rw [List.append_assoc]
    exact (eq_append_of_cutAt? cut).symm
  · rintro ⟨before, rest, rfl⟩
    induction before with
    | nil =>
        rw [List.nil_append, occurs, cutAt?_append]
        rfl
    | cons c before inductionHypothesis =>
        rw [occurs, List.cons_append, List.cons_append, cutAt?]
        split
        · rfl
        · rw [Option.isSome_map]
          exact inductionHypothesis

theorem occurs_of_notMem
    {mark : Char}
    {marks text : List Char}
    (absent : mark ∉ text) :
    occurs (mark :: marks) text = false := by
  rw [occurs, cutAt?_eq_none_of_notMem marks absent]
  rfl

/-- A text is cut at the first place where a character stands. -/
theorem notMem_of_cutAt?
    {m : Char}
    {text before rest : List Char}
    (found : cutAt? [m] text = some (before, rest)) :
    m ∉ before := by
  induction text generalizing before with
  | nil =>
      exact absurd found (by simp [cutAt?, after?])
  | cons c text inductionHypothesis =>
      by_cases same : m = c
      · rw [same] at found
        have first : cutAt? [c] (c :: text) = some ([], text) := cutAt?_append [c] text
        rw [first] at found
        obtain ⟨rfl, -⟩ := Prod.mk.inj (Option.some.inj found)
        exact List.not_mem_nil
      · rw [cutAt?_cons_of_ne same] at found
        obtain ⟨⟨between, tail⟩, cut, shape⟩ := Option.map_eq_some_iff.mp found
        obtain ⟨rfl, rfl⟩ := Prod.mk.inj shape
        exact List.not_mem_cons_of_ne_of_not_mem same (inductionHypothesis cut)

/-- A character that is not in the mark ends no mark, so it may be put behind a text. -/
theorem after?_concat
    {c : Char}
    {mark : List Char}
    (absent : c ∉ mark)
    (text : List Char) :
    after? mark (text ++ [c]) = (after? mark text).map (· ++ [c]) := by
  induction mark generalizing text with
  | nil =>
      rfl
  | cons m marks inductionHypothesis =>
      obtain ⟨different, absent⟩ := List.ne_and_not_mem_of_not_mem_cons absent
      cases text with
      | nil =>
          exact after?_cons_of_ne (Ne.symm different) marks []
      | cons first text =>
          by_cases same : m = first
          · simp [after?, same, inductionHypothesis absent]
          · simp [after?_cons_of_ne same]

/-- A last character that is not in the mark stays in the part behind the cut. -/
theorem cutAt?_concat
    {c : Char}
    {mark : List Char}
    (absent : c ∉ mark)
    (text : List Char) :
    cutAt? mark (text ++ [c]) =
      (cutAt? mark text).map fun (before, rest) => (before, rest ++ [c]) := by
  induction text with
  | nil =>
      cases mark with
      | nil =>
          rfl
      | cons m marks =>
          have other : m ∉ [c] := by
            simpa using Ne.symm (List.ne_of_not_mem_cons absent)
          exact cutAt?_eq_none_of_notMem marks other
  | cons first text inductionHypothesis =>
      rw [List.cons_append, cutAt?, cutAt?, ← List.cons_append, after?_concat absent,
        inductionHypothesis]
      cases after? mark (first :: text) with
      | some rest =>
          rfl
      | none =>
          simp only [Option.map_none, Option.map_map]
          rfl

/-- A doubled mark does not begin where the text goes on with something else. -/
theorem cutAt?_pair_cons
    {m : Char}
    {text : List Char}
    (notNext : text.head? ≠ some m) :
    cutAt? [m, m] (m :: text) =
      (cutAt? [m, m] text).map fun (before, rest) => (m :: before, rest) := by
  cases text with
  | nil =>
      simp [cutAt?, after?]
  | cons c text =>
      have different : m ≠ c := by
        rintro rfl
        exact notNext rfl
      have absent : after? [m, m] (m :: c :: text) = none := by
        simp [after?, different]
      rw [cutAt?, absent]

/-- Where the first character of a mark does not stand, nothing is replaced. -/
theorem replaceAll_of_notMem
    {m : Char}
    (marks replacement : List Char)
    {text : List Char}
    (absent : m ∉ text) :
    replaceAll (m :: marks) replacement text = text := by
  unfold replaceAll
  cases text with
  | nil =>
      rfl
  | cons c text =>
      simp only [List.length_cons, replaceAll.go, cutAt?_eq_none_of_notMem marks absent]

/-- The replacement goes through the text, however much fuel it has beyond the length. -/
private theorem replaceAll_go_eq
    {m : Char}
    {marks replacement text : List Char}
    {fuel more : Nat}
    (enough : text.length ≤ fuel)
    (alsoEnough : text.length ≤ more) :
    replaceAll.go (m :: marks) replacement fuel text =
      replaceAll.go (m :: marks) replacement more text := by
  induction fuel generalizing text more with
  | zero =>
      have empty : text = [] := List.eq_nil_of_length_eq_zero (by omega)
      subst text
      cases more <;> rfl
  | succ fuel inductionHypothesis =>
      cases more with
      | zero =>
          have empty : text = [] := List.eq_nil_of_length_eq_zero (by omega)
          subst text
          rfl
      | succ more =>
          rw [replaceAll.go, replaceAll.go]
          cases cut : cutAt? (m :: marks) text with
          | none =>
              rfl
          | some found =>
              obtain ⟨before, rest⟩ := found
              have shape := congrArg List.length (eq_append_of_cutAt? cut)
              simp only [List.length_append, List.length_cons] at shape
              have same : replaceAll.go (m :: marks) replacement fuel rest =
                  replaceAll.go (m :: marks) replacement more rest :=
                inductionHypothesis (by omega) (by omega)
              simp only [same]

/-- A mark behind a stretch without its first character is the first that is replaced. -/
theorem replaceAll_append
    {m : Char}
    (marks replacement : List Char)
    {before : List Char}
    (absent : m ∉ before)
    (rest : List Char) :
    replaceAll (m :: marks) replacement (before ++ (m :: marks ++ rest)) =
      before ++ (replacement ++ replaceAll (m :: marks) replacement rest) := by
  have cut :
      cutAt? (m :: marks) (before ++ (m :: marks ++ rest)) = some (before, rest) := by
    rw [cutAt?_append_of_notMem marks absent, cutAt?_append]
    simp
  obtain ⟨fuel, size⟩ : ∃ fuel, (before ++ (m :: marks ++ rest)).length = fuel + 1 :=
    ⟨before.length + marks.length + rest.length, by simp; omega⟩
  have fits : rest.length ≤ fuel := by
    simp only [List.length_append, List.length_cons] at size
    omega
  rw [replaceAll, size, replaceAll.go, cut]
  simp only [List.append_assoc, replaceAll, replaceAll_go_eq fits (Nat.le_refl rest.length)]

/-- A mark between pieces without its first character is replaced everywhere. -/
theorem replaceAll_intercalate
    {m : Char}
    (marks replacement : List Char)
    {joined : List (List Char)}
    (absent : ∀ piece ∈ joined, m ∉ piece) :
    replaceAll (m :: marks) replacement ((m :: marks).intercalate joined) =
      replacement.intercalate joined := by
  induction joined with
  | nil =>
      rfl
  | cons piece others inductionHypothesis =>
      have pieceAbsent : m ∉ piece :=
        absent piece List.mem_cons_self
      cases others with
      | nil =>
          simpa using replaceAll_of_notMem marks replacement pieceAbsent
      | cons next others =>
          have othersReplaced :=
            inductionHypothesis fun other member => absent other (List.mem_cons_of_mem piece member)
          rw [List.intercalate_cons_cons, List.intercalate_cons_cons, List.append_assoc,
            replaceAll_append marks replacement pieceAbsent, othersReplaced, List.append_assoc]

/-- Marks at the ends of lines are replaced line by line. -/
theorem replaceAll_lines
    {m : Char}
    (marks replacement : List Char)
    {lines : List (List Char)}
    (absent : ∀ line ∈ lines, m ∉ line)
    (rest : List Char) :
    replaceAll (m :: marks) replacement ((lines.flatMap fun line => line ++ m :: marks) ++ rest) =
      (lines.flatMap fun line => line ++ replacement) ++
        replaceAll (m :: marks) replacement rest := by
  induction lines with
  | nil =>
      rfl
  | cons line others inductionHypothesis =>
      have lineAbsent : m ∉ line :=
        absent line List.mem_cons_self
      have othersReplaced :=
        inductionHypothesis fun other member => absent other (List.mem_cons_of_mem line member)
      rw [List.flatMap_cons, List.append_assoc, List.append_assoc,
        replaceAll_append marks replacement lineAbsent, othersReplaced, List.flatMap_cons,
        List.append_assoc, List.append_assoc]

/-- A text without the separator is one piece. -/
theorem pieces_of_notMem
    {separator : Char}
    {piece : List Char}
    (absent : separator ∉ piece) :
    pieces separator piece = [piece] := by
  induction piece with
  | nil =>
      rfl
  | cons c piece inductionHypothesis =>
      obtain ⟨different, absent⟩ := List.ne_and_not_mem_of_not_mem_cons absent
      simp [pieces, Ne.symm different, inductionHypothesis absent]

theorem pieces_ne_nil
    (separator : Char)
    (text : List Char) :
    pieces separator text ≠ [] := by
  cases text with
  | nil =>
      exact List.cons_ne_nil _ _
  | cons c rest =>
      rw [pieces]
      split
      · exact List.cons_ne_nil _ _
      · split
        · exact List.cons_ne_nil _ _
        · exact List.cons_ne_nil _ _

/-- A character that separates nothing is put in front of the first piece. -/
theorem pieces_cons_of_ne
    {separator c : Char}
    (different : c ≠ separator)
    {rest first : List Char}
    {others : List (List Char)}
    (shape : pieces separator rest = first :: others) :
    pieces separator (c :: rest) = (c :: first) :: others := by
  rw [pieces, if_neg different, shape]

/-- A separator parts the pieces in front of it from those behind. -/
theorem pieces_append
    (separator : Char)
    (text rest : List Char) :
    pieces separator (text ++ separator :: rest) =
      pieces separator text ++ pieces separator rest := by
  induction text with
  | nil =>
      simp [pieces]
  | cons c text inductionHypothesis =>
      by_cases separates : c = separator
      · rw [List.cons_append, pieces, pieces, if_pos separates, if_pos separates,
          inductionHypothesis]
        rfl
      · obtain ⟨first, others, shape⟩ := List.exists_cons_of_ne_nil (pieces_ne_nil separator text)
        rw [shape, List.cons_append] at inductionHypothesis
        rw [List.cons_append, pieces_cons_of_ne separates inductionHypothesis,
          pieces_cons_of_ne separates shape]
        rfl

/-- The first piece ends at the first separator. -/
theorem pieces_append_cons
    {separator : Char}
    {piece : List Char}
    (absent : separator ∉ piece)
    (rest : List Char) :
    pieces separator (piece ++ separator :: rest) =
      piece :: pieces separator rest := by
  rw [pieces_append, pieces_of_notMem absent]
  rfl

/-- The first piece is the front of the text, and the others are stretches of it. -/
theorem isPrefix_of_pieces
    {separator : Char}
    {text first : List Char}
    {others : List (List Char)}
    (shape : pieces separator text = first :: others) :
    first <+: text ∧ ∀ other ∈ others, other <:+: text := by
  induction text generalizing first others with
  | nil =>
      obtain ⟨rfl, rfl⟩ := List.cons.inj shape
      exact ⟨List.prefix_rfl, List.forall_mem_nil _⟩
  | cons c rest inductionHypothesis =>
      obtain ⟨next, later, restShape⟩ := List.exists_cons_of_ne_nil (pieces_ne_nil separator rest)
      obtain ⟨isNext, areLater⟩ := inductionHypothesis restShape
      have stretches : ∀ other ∈ later, other <:+: c :: rest :=
        fun other isLater => List.infix_cons (areLater other isLater)
      by_cases separates : c = separator
      · rw [pieces, if_pos separates, restShape] at shape
        obtain ⟨rfl, rfl⟩ := List.cons.inj shape
        exact ⟨List.nil_prefix,
          List.forall_mem_cons.mpr ⟨List.infix_cons isNext.isInfix, stretches⟩⟩
      · rw [pieces_cons_of_ne separates restShape] at shape
        obtain ⟨rfl, rfl⟩ := List.cons.inj shape
        exact ⟨List.cons_prefix_cons.mpr ⟨rfl, isNext⟩, stretches⟩

/-- Each piece stands in the text. -/
theorem isInfix_of_mem_pieces
    {separator : Char}
    {text piece : List Char}
    (member : piece ∈ pieces separator text) :
    piece <:+: text := by
  obtain ⟨first, others, shape⟩ := List.exists_cons_of_ne_nil (pieces_ne_nil separator text)
  obtain ⟨isFirst, areOthers⟩ := isPrefix_of_pieces shape
  rw [shape] at member
  rcases List.mem_cons.mp member with rfl | isOther
  · exact isFirst.isInfix
  · exact areOthers piece isOther

/-- Lines with the separator at their ends are the pieces in front of the rest. -/
theorem pieces_lines
    {separator : Char}
    {lines : List (List Char)}
    (absent : ∀ line ∈ lines, separator ∉ line)
    (rest : List Char) :
    pieces separator ((lines.flatMap fun line => line ++ [separator]) ++ rest) =
      lines ++ pieces separator rest := by
  induction lines with
  | nil =>
      rfl
  | cons line others inductionHypothesis =>
      have lineAbsent : separator ∉ line :=
        absent line List.mem_cons_self
      have othersCut :=
        inductionHypothesis fun other member => absent other (List.mem_cons_of_mem line member)
      rw [List.flatMap_cons, List.append_assoc, List.append_assoc, List.singleton_append,
        pieces_append_cons lineAbsent, othersCut, List.cons_append]

/-- Pieces without the separator are the pieces of the text that the separator joins. -/
theorem pieces_intercalate
    {separator : Char}
    {joined : List (List Char)}
    (nonempty : joined ≠ [])
    (absent : ∀ piece ∈ joined, separator ∉ piece) :
    pieces separator ([separator].intercalate joined) = joined := by
  induction joined with
  | nil =>
      exact (nonempty rfl).elim
  | cons piece others inductionHypothesis =>
      have pieceAbsent : separator ∉ piece :=
        absent piece List.mem_cons_self
      cases others with
      | nil =>
          simpa using pieces_of_notMem pieceAbsent
      | cons next others =>
          have othersJoined :=
            inductionHypothesis (by simp)
              fun other member => absent other (List.mem_cons_of_mem piece member)
          rw [List.intercalate_cons_cons, List.append_assoc, List.singleton_append,
            pieces_append_cons pieceAbsent, othersJoined]

/-- The separator joins the pieces of a text to the text again. -/
theorem intercalate_pieces
    (separator : Char)
    (text : List Char) :
    [separator].intercalate (pieces separator text) = text := by
  induction text with
  | nil =>
      rfl
  | cons c rest inductionHypothesis =>
      obtain ⟨first, others, shape⟩ := List.exists_cons_of_ne_nil (pieces_ne_nil separator rest)
      by_cases separates : c = separator
      · rw [pieces, if_pos separates, shape, List.intercalate_cons_cons, ← shape,
          inductionHypothesis, separates]
        rfl
      · rw [shape] at inductionHypothesis
        rw [pieces_cons_of_ne separates shape]
        cases others with
        | nil =>
            simpa using inductionHypothesis
        | cons next others =>
            simpa [List.intercalate_cons_cons] using inductionHypothesis

/-- The pieces tell the text. -/
theorem pieces_injective (separator : Char) : Function.Injective (pieces separator) :=
  Function.LeftInverse.injective (intercalate_pieces separator)

/-- A character that is in no part and is not the separator is not in the whole. -/
theorem notMem_intercalate
    {c separator : Char}
    {joined : List (List Char)}
    (notSeparator : c ≠ separator)
    (absent : ∀ piece ∈ joined, c ∉ piece) :
    c ∉ [separator].intercalate joined := by
  induction joined with
  | nil =>
      simp
  | cons piece others inductionHypothesis =>
      have pieceAbsent : c ∉ piece :=
        absent piece List.mem_cons_self
      have othersAbsent : c ∉ [separator].intercalate others :=
        inductionHypothesis fun other member => absent other (List.mem_cons_of_mem piece member)
      cases others with
      | nil =>
          simpa using pieceAbsent
      | cons next others =>
          rw [List.intercalate_cons_cons]
          simp [pieceAbsent, notSeparator, othersAbsent]

/-- A line end is passed over where the mark, which begins with it, does not stand. -/
theorem cutAt?_lineEnd_append
    {m : Char}
    {ends marks : List Char}
    (endsOnce : m ∉ ends)
    {text : List Char}
    (absent : after? (m :: marks) (m :: (ends ++ text)) = none) :
    cutAt? (m :: marks) (m :: (ends ++ text)) =
      (cutAt? (m :: marks) text).map fun (before, rest) => (m :: (ends ++ before), rest) := by
  rw [cutAt?]
  simp only [absent, cutAt?_append_of_notMem marks endsOnce, Option.map_map]
  rfl

/--
Lines that are not empty end at the first empty line, whatever stands behind it.  The line end
after the last line and the one of the empty line make the doubled mark.
-/
theorem cutAt?_emptyLine
    {m : Char}
    {ends : List Char}
    (endsOnce : m ∉ ends)
    {lines : List (List Char)}
    (nonempty : lines ≠ [])
    (plain : ∀ line ∈ lines, line ≠ [] ∧ m ∉ line)
    (rest : List Char) :
    cutAt? (m :: ends ++ m :: ends)
        ((lines.flatMap fun line => line ++ m :: ends) ++ m :: ends ++ rest) =
      some ((m :: ends).intercalate lines, rest) := by
  induction lines with
  | nil =>
      exact (nonempty rfl).elim
  | cons line others inductionHypothesis =>
      have lineAbsent : m ∉ line :=
        (plain line List.mem_cons_self).2
      cases others with
      | nil =>
          have found :
              cutAt? (m :: (ends ++ m :: ends)) (m :: (ends ++ m :: (ends ++ rest))) =
                some ([], rest) := by
            simpa using cutAt?_append (m :: ends ++ m :: ends) rest
          simp [cutAt?_append_of_notMem (ends ++ m :: ends) lineAbsent, found]
      | cons next others =>
          have othersCut :=
            inductionHypothesis (by simp)
              fun other member => plain other (List.mem_cons_of_mem line member)
          obtain ⟨nextNonempty, nextAbsent⟩ :=
            plain next (by simp)
          obtain ⟨c, tail, rfl⟩ := List.exists_cons_of_ne_nil nextNonempty
          have different : m ≠ c :=
            List.ne_of_not_mem_cons nextAbsent
          -- one line end alone is not the doubled mark, because the next line has a character
          have notHere (text : List Char) :
              after? (m :: (ends ++ m :: ends)) (m :: (ends ++ c :: text)) = none := by
            simpa using (after?_append_append (m :: ends) (m :: ends) (c :: text)).trans
              (after?_cons_of_ne different ends text)
          simp only [List.flatMap_cons, List.append_assoc, List.cons_append] at othersCut ⊢
          rw [cutAt?_append_of_notMem (ends ++ m :: ends) lineAbsent,
            cutAt?_lineEnd_append endsOnce (notHere _), othersCut]
          simp

end SceneEditor.Text
