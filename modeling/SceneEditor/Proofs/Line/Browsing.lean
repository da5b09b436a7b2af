import Mathlib.Data.List.DropRight
import SceneEditor.Line.History

namespace SceneEditor

/-!
# Browsing the history

Lines are added, the history is cleared and browsed, in any order.  What it holds is told by the lines
that were added since it was last cleared.  A cursor that browses is always at a line, so no step
looks for one that is not there; and this is all that the laws of browsing need.
-/

/-- What is done with a history. -/
inductive HistoryCall where
  | append (line : String)
  | clear
  | previous
  | next
  deriving DecidableEq, Repr

/-- The line that a call adds. -/
def HistoryCall.line? : HistoryCall → Option String
  | append line => some line
  | clear | previous | next => none

namespace History

/-- What a call leaves, and what it answers. -/
def call (history : History) : HistoryCall → History × Option String
  | .append line => (history.append line, none)
  | .clear => (history.clear, none)
  | .previous => history.previous
  | .next => history.next

/-- What one call after another leaves, and what each of them answers. -/
def callAll (history : History) : List HistoryCall → History × List (Option String)
  | [] => (history, [])
  | call :: rest =>
      let first := history.call call
      let later := first.1.callAll rest
      (later.1, first.2 :: later.2)

/-- The history with its cursor at a place. -/
def browsing (history : History) (place : Nat) : History :=
  { history with cursor? := some place }

/-- A history with a cursor is browsing at its place. -/
theorem eq_browsing
    {history : History}
    {place : Nat}
    (isBrowsing : history.cursor? = some place) :
    history = history.browsing place := by
  rw [browsing, ← isBrowsing]

/-!
## One call
-/

/-- A cursor that browses is at a line. -/
def InRange (history : History) : Prop :=
  ∀ place, history.cursor? = some place → place < history.entries.length

/-- Browsing at a place of the history is in range. -/
theorem inRange_browsing
    {history : History}
    {place : Nat}
    (inside : place < history.entries.length) :
    (history.browsing place).InRange := by
  intro other isOther
  rw [← Option.some.inj isOther]
  exact inside

/-- The older place is one of the history, unless there is none at all. -/
theorem InRange.olderPlace_lt
    {history : History}
    (inRange : history.InRange)
    (filled : history.entries ≠ []) :
    history.olderPlace < history.entries.length := by
  have nonempty := List.length_pos_of_ne_nil filled
  rw [olderPlace]
  split
  · omega
  · next place isBrowsing =>
    have inside := inRange place isBrowsing
    omega

/-- An empty history has nothing to go back to. -/
theorem previous_of_empty
    {history : History}
    (empty : history.entries = []) :
    history.previous = (history, none) := by
  simp [previous, empty]

/-- Going back shows the next older entry, and the oldest again at the end. -/
theorem InRange.previous_eq
    {history : History}
    (inRange : history.InRange)
    (filled : history.entries ≠ []) :
    history.previous =
      (history.browsing history.olderPlace, history.entries[history.olderPlace]?) := by
  rw [previous, List.getElem?_eq_getElem (inRange.olderPlace_lt filled)]
  rfl

/-- Without a cursor there is nothing to go on to. -/
theorem next_of_resting
    {history : History}
    (resting : history.cursor? = none) :
    history.next = (history, none) := by
  simp [next, resting]

/-- Going on from an older entry shows the one behind it. -/
theorem next_browsing_of_older
    {history : History}
    {place : Nat}
    (older : place + 1 < history.entries.length) :
    (history.browsing place).next =
      (history.browsing (place + 1), history.entries[place + 1]?) := by
  rw [List.getElem?_eq_getElem older]
  simp only [next, browsing, List.getElem?_eq_getElem older]

/-- Going on from the newest entry leaves the history and shows an empty line. -/
theorem next_browsing_of_newest
    {history : History}
    {place : Nat}
    (newest : history.entries.length ≤ place + 1) :
    (history.browsing place).next = ({ history with cursor? := none }, some "") := by
  simp only [next, browsing, List.getElem?_eq_none newest]

/-- No call takes the cursor out of the history. -/
theorem InRange.call
    {history : History}
    (inRange : history.InRange)
    (call : HistoryCall) :
    (history.call call).1.InRange := by
  cases call with
  | append line =>
      exact fun _ never => nomatch never
  | clear =>
      exact fun _ never => nomatch never
  | previous =>
      by_cases filled : history.entries = []
      · rw [History.call, previous_of_empty filled]
        exact inRange
      · rw [History.call, inRange.previous_eq filled]
        exact inRange_browsing (inRange.olderPlace_lt filled)
  | next =>
      cases place? : history.cursor? with
      | none =>
          rw [History.call, next_of_resting place?]
          exact inRange
      | some place =>
          rw [eq_browsing place?]
          by_cases older : place + 1 < history.entries.length
          · rw [History.call, next_browsing_of_older older]
            exact inRange_browsing older
          · rw [History.call, next_browsing_of_newest (Nat.not_lt.mp older)]
            exact fun _ never => nomatch never

/-- A call adds its line, or leaves the lines alone, unless it clears them. -/
theorem entries_call
    (history : History)
    (call : HistoryCall) :
    (history.call call).1.entries =
      if call = .clear then [] else history.entries ++ call.line?.toList := by
  cases call with
  | append line =>
      rfl
  | clear =>
      rfl
  | previous =>
      simp only [History.call, previous, HistoryCall.line?, Option.toList_none, List.append_nil]
      split <;> rfl
  | next =>
      simp only [History.call, next, HistoryCall.line?, Option.toList_none, List.append_nil]
      split
      · rfl
      · split <;> rfl

/-!
## Calls in a row
-/

/-- The last call comes on top of all that was called before. -/
theorem callAll_concat
    (history : History)
    (calls : List HistoryCall)
    (call : HistoryCall) :
    history.callAll (calls ++ [call]) =
      (((history.callAll calls).1.call call).1,
        (history.callAll calls).2 ++ [((history.callAll calls).1.call call).2]) := by
  induction calls generalizing history with
  | nil =>
      rfl
  | cons first rest inductionHypothesis =>
      simp only [List.cons_append, callAll, inductionHypothesis]

/-- The cursor stays in range through any calls. -/
theorem InRange.callAll
    {history : History}
    (inRange : history.InRange)
    (calls : List HistoryCall) :
    (history.callAll calls).1.InRange := by
  induction calls generalizing history with
  | nil =>
      exact inRange
  | cons call rest inductionHypothesis =>
      exact inductionHypothesis (inRange.call call)

theorem inRange_empty : ({} : History).InRange :=
  fun _ never => nomatch never

/-- The history holds the lines that were added since it was last cleared. -/
theorem entries_callAll (calls : List HistoryCall) :
    (callAll {} calls).1.entries =
      (calls.rtakeWhile fun call => call ≠ .clear).filterMap HistoryCall.line? := by
  induction calls using List.reverseRecOn with
  | nil =>
      rfl
  | append_singleton calls call inductionHypothesis =>
      rw [callAll_concat, entries_call, List.rtakeWhile_concat, inductionHypothesis]
      by_cases clears : call = .clear
      · simp [clears]
      · cases added : call.line? with
        | none =>
            simp [clears, added]
        | some line =>
            simp [clears, added]

/-- Step by step towards older lines, and no further than the oldest. -/
theorem callAll_previous
    {history : History}
    (resting : history.cursor? = none)
    (filled : history.entries ≠ [])
    (more : Nat) :
    (history.callAll (List.replicate (more + 1) .previous)).1 =
        history.browsing (history.entries.length - (more + 1)) ∧
      (history.callAll (List.replicate (more + 1) .previous)).2.getLast? =
        some history.entries[history.entries.length - (more + 1)]? := by
  have nonempty := List.length_pos_of_ne_nil filled
  induction more with
  | zero =>
      have inRange : history.InRange := fun place never => nomatch resting.symm.trans never
      have newest : history.olderPlace = history.entries.length - 1 := by
        rw [olderPlace, resting]
      have first := inRange.previous_eq filled
      rw [newest] at first
      have only :
          history.callAll (List.replicate (0 + 1) .previous) =
            (history.previous.1, [history.previous.2]) :=
        rfl
      rw [only, first]
      exact ⟨rfl, rfl⟩
  | succ more inductionHypothesis =>
      obtain ⟨reached, -⟩ := inductionHypothesis
      have inRange := inRange_browsing
        (show history.entries.length - (more + 1) < history.entries.length by omega)
      have older :
          (history.browsing (history.entries.length - (more + 1))).olderPlace =
            history.entries.length - (more + 1 + 1) :=
        Nat.sub_sub _ _ 1
      have step := inRange.previous_eq filled
      rw [older] at step
      simp only [List.replicate_succ' (n := more + 1), callAll_concat, reached, call, step,
        List.getLast?_concat]
      exact ⟨rfl, rfl⟩

/-- Step by step towards newer lines, as far as there are any. -/
theorem callAll_next
    (history : History)
    {place steps : Nat}
    (inside : place + steps < history.entries.length) :
    (history.browsing place).callAll (List.replicate steps .next) =
      (history.browsing (place + steps),
        (List.range steps).map fun step => history.entries[place + (step + 1)]?) := by
  induction steps with
  | zero =>
      rfl
  | succ steps inductionHypothesis =>
      have older : place + steps + 1 < history.entries.length := inside
      have step := next_browsing_of_older older
      rw [List.replicate_succ', callAll_concat, inductionHypothesis (by omega), call, step,
        List.range_succ, List.map_append]
      rfl

/-- Past the newest line is the empty input, and there browsing ends. -/
theorem callAll_next_all
    (history : History)
    {place : Nat}
    (inside : place < history.entries.length) :
    (history.browsing place).callAll (List.replicate (history.entries.length - place) .next) =
      ({ history with cursor? := none },
        (history.entries.drop (place + 1)).map some ++ [some ""]) := by
  obtain ⟨steps, counted⟩ : ∃ steps, history.entries.length - place = steps + 1 :=
    ⟨history.entries.length - (place + 1), by omega⟩
  have within : place + steps < history.entries.length := by omega
  have reached := callAll_next history within
  have newest : history.entries.length ≤ place + steps + 1 := by omega
  have lines :
      (List.range steps).map (fun step => history.entries[place + (step + 1)]?) =
        (history.entries.drop (place + 1)).map some := by
    apply List.ext_getElem
    · simp only [List.length_map, List.length_range, List.length_drop]
      omega
    · intro step inRange inLines
      simp only [List.length_map, List.length_range] at inRange
      have inside : place + (step + 1) < history.entries.length := by omega
      simp only [List.getElem_map, List.getElem_range, List.getElem_drop,
        List.getElem?_eq_getElem inside, Nat.add_assoc, Nat.add_comm 1 step]
  rw [counted, List.replicate_succ', callAll_concat, reached, call, next_browsing_of_newest newest,
    lines]

/-- Without a step to an older line a history that is not browsed has nothing to answer. -/
theorem callAll_resting
    {history : History}
    (resting : history.cursor? = none)
    {calls : List HistoryCall}
    (never : .previous ∉ calls) :
    (history.callAll calls).1.cursor? = none := by
  induction calls generalizing history with
  | nil =>
      exact resting
  | cons call rest inductionHypothesis =>
      obtain ⟨different, never⟩ := List.ne_and_not_mem_of_not_mem_cons never
      refine inductionHypothesis ?_ never
      cases call with
      | append line =>
          rfl
      | clear =>
          rfl
      | previous =>
          exact absurd rfl different
      | next =>
          rw [History.call, next_of_resting resting]
          exact resting

/--
What browsing does.  The cursor is at a line or nowhere, and a step has an answer unless there is no
line or, towards newer lines, nothing is browsed.  The steps to older lines begin at the newest one and
stay at the oldest; a step back and one forth again end where they began; and the steps to newer
lines end at the empty input, behind which there is nothing until the next step to an older line.
-/
structure Browses (history : History) : Prop where
  inRange : ∀ place, history.cursor? = some place → place < history.entries.length
  older_answers : history.previous.2 = none ↔ history.entries = []
  newer_answers : history.next.2 = none ↔ history.cursor? = none
  older :
    history.cursor? = none → history.entries ≠ [] → ∀ steps, 0 < steps →
      ∃ line,
        history.entries[history.entries.length - steps]? = some line ∧
          (history.callAll (List.replicate steps .previous)).2.getLast? = some (some line)
  back :
    ∀ place, history.cursor? = some place → 0 < place →
      ∃ line,
        history.entries[place]? = some line ∧ history.previous.1.next = (history, some line)
  newer :
    ∀ place, history.cursor? = some place → ∀ steps < history.entries.length - place,
      (history.callAll (List.replicate steps .next)).1.cursor? = some (place + steps)
  newest :
    ∀ place, history.cursor? = some place →
      ∃ reached,
        history.callAll (List.replicate (history.entries.length - place) .next) =
            (reached, (history.entries.drop (place + 1)).map some ++ [some ""]) ∧
          reached.cursor? = none ∧
          ∀ later, .previous ∉ later → (reached.callAll later).1.next.2 = none

/-- A history whose cursor is at a line is browsed by these rules. -/
theorem InRange.browses
    {history : History}
    (inRange : history.InRange) :
    history.Browses where
  inRange := inRange
  older_answers := by
    constructor
    · intro silent
      by_contra filled
      rw [inRange.previous_eq filled, List.getElem?_eq_none_iff] at silent
      exact absurd (inRange.olderPlace_lt filled) (Nat.not_lt.mpr silent)
    · intro empty
      rw [previous_of_empty empty]
  newer_answers := by
    cases place? : history.cursor? with
    | none =>
        rw [next_of_resting place?]
        exact iff_of_true rfl rfl
    | some place =>
        rw [eq_browsing place?]
        refine iff_of_false ?_ (Option.some_ne_none place)
        by_cases older : place + 1 < history.entries.length
        · rw [next_browsing_of_older older, List.getElem?_eq_getElem older]
          exact Option.some_ne_none _
        · rw [next_browsing_of_newest (Nat.not_lt.mp older)]
          exact Option.some_ne_none _
  older := by
    intro resting filled steps positive
    have nonempty := List.length_pos_of_ne_nil filled
    obtain ⟨more, rfl⟩ := Nat.exists_eq_succ_of_ne_zero (Nat.pos_iff_ne_zero.mp positive)
    have inside : history.entries.length - (more + 1) < history.entries.length := by omega
    refine ⟨history.entries[history.entries.length - (more + 1)],
      List.getElem?_eq_getElem inside, ?_⟩
    rw [(callAll_previous resting filled more).2, List.getElem?_eq_getElem inside]
  back := by
    intro place isBrowsing positive
    have inside := inRange place isBrowsing
    have older : history.olderPlace = place - 1 := by
      rw [olderPlace, isBrowsing]
    have again : place - 1 + 1 = place := Nat.sub_add_cancel positive
    refine ⟨history.entries[place], List.getElem?_eq_getElem inside, ?_⟩
    rw [inRange.previous_eq (List.ne_nil_of_length_pos (Nat.zero_lt_of_lt inside)), older,
      next_browsing_of_older (by omega), again, ← eq_browsing isBrowsing,
      List.getElem?_eq_getElem inside]
  newer := by
    intro place isBrowsing steps few
    have within : place + steps < history.entries.length := by omega
    have reached := callAll_next history within
    rw [← eq_browsing isBrowsing] at reached
    rw [reached]
    rfl
  newest := by
    intro place isBrowsing
    have reached := callAll_next_all history (inRange place isBrowsing)
    rw [← eq_browsing isBrowsing] at reached
    refine ⟨_, reached, rfl, fun later never => ?_⟩
    rw [next_of_resting (callAll_resting rfl never)]

/--
Whatever is done with a history, and in whatever order: it holds the lines that were added since it
was last cleared, and it is browsed by the rules.
-/
theorem callAll_browses (calls : List HistoryCall) :
    (callAll {} calls).1.entries =
        (calls.rtakeWhile fun call => call ≠ .clear).filterMap HistoryCall.line? ∧
      (callAll {} calls).1.Browses :=
  ⟨entries_callAll calls, (inRange_empty.callAll calls).browses⟩

example :
    (callAll {}
      [.append "a", .append "b", .previous, .previous, .previous, .next, .next, .next]).2 =
        [none, none, some "b", some "a", some "a", some "b", some "", none] := by
  decide

end History

end SceneEditor
