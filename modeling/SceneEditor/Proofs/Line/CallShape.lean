import Mathlib.Data.List.Forall2
import SceneEditor.Proofs.Line.WrittenRanges

namespace SceneEditor

/-!
# The shapes of typed calls

What a typed call looks like, said as the text that it is put together from: a name in any letter
case, gaps of blanks, arguments between commas and brackets.  A text is recognized as a call exactly
if it can be put together so, and then there is one call that it can be.
-/

namespace CallText

/-- Each character of the text stands for the letter of the name in its place. -/
def Spells (name text : List Char) : Prop :=
  List.Forall₂ (fun letter c => standsFor letter c = true) name text

/-- Blanks, or nothing at all. -/
def IsGap (text : List Char) : Prop :=
  text.all Text.isBlank = true

/-- A spelling of a name is taken from the front of a text. -/
theorem Spells.takeName?_eq
    {name found : List Char}
    (spelled : Spells name found)
    (rest : List Char) :
    takeName? name (found ++ rest) = some (found, rest) := by
  induction spelled with
  | nil =>
      rfl
  | cons stands _ inductionHypothesis =>
      rw [List.cons_append, takeName?, if_pos stands, inductionHypothesis]
      rfl

/-- A name is taken exactly from a text that begins with a spelling of it. -/
theorem takeName?_eq_some_iff
    {name text found rest : List Char} :
    takeName? name text = some (found, rest) ↔ text = found ++ rest ∧ Spells name found := by
  constructor
  · intro taken
    refine ⟨(eq_append_of_takeName? taken).1, ?_⟩
    induction name generalizing text found with
    | nil =>
        obtain ⟨rfl, -⟩ := Prod.mk.inj (Option.some.inj taken)
        exact .nil
    | cons letter letters inductionHypothesis =>
        cases text with
        | nil =>
            exact absurd taken (by simp [takeName?])
        | cons c text =>
            rw [takeName?] at taken
            split at taken
            · next stands =>
              obtain ⟨⟨others, after⟩, takenRest, shape⟩ := Option.map_eq_some_iff.mp taken
              obtain ⟨rfl, rfl⟩ := Prod.mk.inj shape
              exact .cons stands (inductionHypothesis takenRest)
            · exact absurd taken (by simp)
  · rintro ⟨rfl, spelled⟩
    exact spelled.takeName?_eq rest

/-- What is taken to the end is a spelling of the name. -/
theorem Spells.of_takeName?
    {name text : List Char}
    (taken : takeName? name text = some (text, [])) :
    Spells name text :=
  (takeName?_eq_some_iff.mp taken).2

/-- A gap in front of a text is dropped with the blanks of the text. -/
theorem dropWhile_append_of_isGap
    {gap : List Char}
    (isGap : IsGap gap)
    (text : List Char) :
    (gap ++ text).dropWhile Text.isBlank = text.dropWhile Text.isBlank := by
  have dropped : gap.dropWhile Text.isBlank = [] :=
    List.dropWhile_eq_nil_iff.mpr (List.all_eq_true.mp isGap)
  rw [List.dropWhile_append, dropped]
  rfl

/-- A mark is found behind a gap. -/
theorem IsGap.afterMark?_eq
    {mark : Char}
    (visible : Text.isBlank mark = false)
    {gap : List Char}
    (isGap : IsGap gap)
    (rest : List Char) :
    afterMark? mark (gap ++ mark :: rest) = some rest := by
  rw [afterMark?, dropWhile_append_of_isGap isGap, List.dropWhile_cons_of_neg (by simp [visible])]
  exact if_pos rfl

/-- A mark is found exactly behind a gap. -/
theorem afterMark?_eq_some_iff
    {mark : Char}
    (visible : Text.isBlank mark = false)
    {text rest : List Char} :
    afterMark? mark text = some rest ↔ ∃ gap, IsGap gap ∧ text = gap ++ mark :: rest := by
  constructor
  · intro found
    rw [afterMark?] at found
    split at found
    · exact absurd found (by simp)
    · next c others shape =>
      split at found
      · next isMark =>
        obtain rfl := Option.some.inj found
        refine ⟨text.takeWhile Text.isBlank, List.all_takeWhile, ?_⟩
        rw [← isMark, ← shape, List.takeWhile_append_dropWhile]
      · exact absurd found (by simp)
  · rintro ⟨gap, isGap, rfl⟩
    exact isGap.afterMark?_eq visible rest

/-- A cut is made at the first place of the mark. -/
theorem cutBefore?_eq_some_iff
    {mark : Char}
    {text before rest : List Char} :
    cutBefore? mark text = some (before, rest) ↔ text = before ++ mark :: rest ∧ mark ∉ before := by
  constructor
  · intro cut
    refine ⟨?_, notMem_of_cutBefore? cut⟩
    induction text generalizing before with
    | nil =>
        exact absurd cut (by simp [cutBefore?])
    | cons c text inductionHypothesis =>
        rw [cutBefore?] at cut
        split at cut
        · next isMark =>
          obtain ⟨rfl, rfl⟩ := Prod.mk.inj (Option.some.inj cut)
          rw [isMark]
          rfl
        · obtain ⟨⟨between, after⟩, cutRest, shape⟩ := Option.map_eq_some_iff.mp cut
          obtain ⟨rfl, rfl⟩ := Prod.mk.inj shape
          rw [inductionHypothesis cutRest]
          rfl
  · rintro ⟨rfl, absent⟩
    exact cutBefore?_append absent rest

end CallText

namespace ConnectCall

open CallText

/--
The text is the call.  The third argument begins where the gap behind the second comma may end, and
has neither a line break in it nor nothing at all; what it begins and ends with is trimmed.
-/
inductive Reads : List Char → ConnectCall → Prop where
  | call {name gap source target lead argument : List Char}
      (spelled : Spells "connect".toList name)
      (isGap : IsGap gap)
      (sourceFilled : source ≠ [])
      (sourceWhole : ',' ∉ source)
      (targetFilled : target ≠ [])
      (targetWhole : ',' ∉ target)
      (isLead : IsGap lead)
      (argumentFilled : argument ≠ [])
      (oneLine : '\n' ∉ argument) :
      Reads
        (name ++ (gap ++ '(' :: (source ++ ',' :: (target ++ ',' :: (lead ++ argument ++ [')'])))))
        { source := Text.trim source, target := Text.trim target, material := Text.trim argument }

/-- A last argument ends at the bracket that closes the text, is on one line and is trimmed. -/
theorem lastArgument?_eq_some_iff
    {text material : List Char} :
    lastArgument? text = some material ↔
      ∃ lead argument, text = lead ++ argument ++ [')'] ∧ IsGap lead ∧ argument ≠ [] ∧
        '\n' ∉ argument ∧ material = Text.trim argument := by
  constructor
  · intro read
    rw [lastArgument?] at read
    split at read
    · next isLast =>
      obtain ⟨body, rfl⟩ := List.getLast?_eq_some_iff.mp isLast
      rw [List.dropLast_concat] at read
      dsimp only at read
      split at read
      · next allBlank =>
        -- nothing but blanks, of which the last one is left for the argument
        split at read
        · next last isLast =>
          obtain ⟨lead, rfl⟩ := List.getLast?_eq_some_iff.mp isLast
          split at read
          · exact absurd read (by simp)
          · next oneLine =>
            obtain rfl := Option.some.inj read
            have blank := List.dropWhile_eq_nil_iff.mp allBlank
            have isLead : IsGap lead :=
              List.all_eq_true.mpr fun c inLead => blank c (List.mem_append_left _ inLead)
            have lastBlank : Text.isBlank last = true := blank last (by simp)
            refine ⟨lead, [last], rfl, isLead, by simp, by simpa using Ne.symm oneLine, ?_⟩
            exact (Text.trim_of_all (by simp [lastBlank])).symm
        · exact absurd read (by simp)
      · next argument filled =>
        split at read
        · exact absurd read (by simp)
        · next oneLine =>
          obtain rfl := Option.some.inj read
          refine ⟨body.takeWhile Text.isBlank, body.dropWhile Text.isBlank, ?_,
            List.all_takeWhile, filled, by simpa using oneLine, rfl⟩
          rw [List.takeWhile_append_dropWhile]
    · exact absurd read (by simp)
  · rintro ⟨lead, argument, rfl, isLead, filled, oneLine, rfl⟩
    rw [lastArgument?, List.getLast?_concat]
    simp only [List.dropLast_concat, dropWhile_append_of_isGap isLead]
    split
    · next allBlank =>
      obtain ⟨last, isLast⟩ := Option.ne_none_iff_exists'.mp
        (mt List.getLast?_eq_none_iff.mp filled)
      have lastKept : last ≠ '\n' := fun isBreak =>
        oneLine (isBreak ▸ List.mem_of_getLast? isLast)
      rw [List.getLast?_append, isLast]
      simp only [Option.some_or, if_neg lastKept]
      rw [Text.trim_of_all (List.all_eq_true.mpr (List.dropWhile_eq_nil_iff.mp allBlank))]
    · next notBlank =>
      rw [if_neg, Text.trim_dropWhile]
      rw [List.contains_iff_mem]
      exact fun inside => oneLine ((List.dropWhile_suffix _).subset inside)

/-- A text is recognized as a call exactly if it is the call. -/
theorem ofText?_eq_some_iff
    {text : List Char}
    {call : ConnectCall} :
    ofText? text = some call ↔ Reads text call := by
  constructor
  · intro recognized
    obtain ⟨⟨name, rest⟩, taken, named⟩ := Option.bind_eq_some_iff.mp recognized
    obtain ⟨inner, opened, behindName⟩ := Option.bind_eq_some_iff.mp named
    obtain ⟨⟨source, afterSource⟩, sourceCut, behindSource⟩ :=
      Option.bind_eq_some_iff.mp behindName
    obtain ⟨⟨target, afterTarget⟩, targetCut, behindTarget⟩ :=
      Option.bind_eq_some_iff.mp behindSource
    obtain ⟨material, argumentRead, built⟩ := Option.bind_eq_some_iff.mp behindTarget
    obtain ⟨rfl, spelled⟩ := takeName?_eq_some_iff.mp taken
    obtain ⟨gap, isGap, rfl⟩ := (afterMark?_eq_some_iff (by decide)).mp opened
    obtain ⟨rfl, sourceWhole⟩ := cutBefore?_eq_some_iff.mp sourceCut
    obtain ⟨rfl, targetWhole⟩ := cutBefore?_eq_some_iff.mp targetCut
    obtain ⟨lead, argument, rfl, isLead, argumentFilled, oneLine, rfl⟩ :=
      lastArgument?_eq_some_iff.mp argumentRead
    split at built
    · exact absurd built (by simp)
    · next filled =>
      obtain rfl := Option.some.inj built
      simp only [Bool.or_eq_true, List.isEmpty_iff, not_or] at filled
      exact .call spelled isGap filled.1 sourceWhole filled.2 targetWhole isLead argumentFilled
        oneLine
  · intro reads
    cases reads with
    | call spelled isGap sourceFilled sourceWhole targetFilled targetWhole isLead argumentFilled
        oneLine =>
        have opened (rest : List Char) : afterMark? '(' (_ ++ '(' :: rest) = some rest :=
          isGap.afterMark?_eq (by decide) rest
        have argumentRead := lastArgument?_eq_some_iff.mpr
          ⟨_, _, rfl, isLead, argumentFilled, oneLine, rfl⟩
        rw [ofText?, spelled.takeName?_eq]
        simp only [Option.bind_eq_bind, Option.bind_some, opened, cutBefore?_append sourceWhole,
          cutBefore?_append targetWhole, argumentRead, Bool.or_eq_true, List.isEmpty_iff,
          sourceFilled, targetFilled, or_self, if_false]
        rfl

end ConnectCall

namespace CollectionCall

open CallText

/-- The name stands in the text without the blanks around it; of blanks alone the last one is the
name. -/
inductive IsNameIn : List Char → List Char → Prop where
  | trimmed {text : List Char} (visible : Text.trim text ≠ []) : IsNameIn text (Text.trim text)
  | lastBlank {blanks : List Char} {last : Char}
      (isGap : IsGap (blanks ++ [last])) : IsNameIn (blanks ++ [last]) [last]

/--
The text is the call.  The name of the collection has neither commas nor brackets, and what is in
the brackets ends at the first that closes.
-/
inductive Reads : List Char → CollectionCall → Prop where
  | call {known command gap text collection lead body tail : List Char}
      (isCommand : known ∈ commands)
      (spelled : Spells known command)
      (isGap : IsGap gap)
      (named : IsNameIn text collection)
      (nameWhole : ',' ∉ text)
      (noBracket : '[' ∉ collection ∧ ']' ∉ collection)
      (isLead : IsGap lead)
      (bodyWhole : ']' ∉ body)
      (isTail : IsGap tail) :
      Reads
        (command ++ (gap ++ '(' :: (text ++ ',' :: (lead ++ '[' :: (body ++ ']' ::
          (tail ++ [')']))))))
        { command, collection, body }

theorem isGap_of_trim
    {text : List Char}
    (nothing : Text.trim text = []) :
    IsGap text := by
  refine List.all_eq_true.mpr fun c member => ?_
  by_contra visible
  have kept := Text.mem_trim_of_mem (Bool.not_eq_true _ ▸ visible) member
  rw [nothing] at kept
  exact absurd kept List.not_mem_nil

/-- A name is read exactly if it stands in the text as a name. -/
theorem nameOf?_eq_some_iff
    {text name : List Char} :
    nameOf? text = some name ↔ IsNameIn text name := by
  constructor
  · intro named
    unfold nameOf? at named
    split at named
    · next allBlank =>
      obtain ⟨last, isLast, rfl⟩ := Option.map_eq_some_iff.mp named
      obtain ⟨blanks, rfl⟩ := List.getLast?_eq_some_iff.mp isLast
      exact .lastBlank (isGap_of_trim allBlank)
    · next visible =>
      obtain rfl := Option.some.inj named
      exact .trimmed visible
  · intro named
    unfold nameOf?
    cases named with
    | trimmed visible =>
        split
        · next nothing =>
          exact absurd nothing visible
        · rfl
    | lastBlank isGap =>
        rw [Text.trim_of_all isGap, List.getLast?_concat]
        rfl

theorem any_bracket_iff (name : List Char) :
    (name.any fun c => c = '[' || c = ']') = true ↔ ¬ ('[' ∉ name ∧ ']' ∉ name) := by
  rw [List.any_eq_true, ← not_or, not_not]
  constructor
  · rintro ⟨c, member, isBracket⟩
    rcases Bool.or_eq_true_iff.mp isBracket with isOpen | isClosed
    · exact .inl (of_decide_eq_true isOpen ▸ member)
    · exact .inr (of_decide_eq_true isClosed ▸ member)
  · rintro (opens | closes)
    · exact ⟨'[', opens, rfl⟩
    · exact ⟨']', closes, rfl⟩

/-- A text is recognized as a call exactly if it is the call. -/
theorem ofText?_eq_some_iff
    {text : List Char}
    {call : CollectionCall} :
    ofText? text = some call ↔ Reads text call := by
  constructor
  · intro recognized
    obtain ⟨known, isCommand, read⟩ := List.exists_of_findSome?_eq_some recognized
    obtain ⟨⟨command, rest⟩, taken, arguments⟩ := Option.bind_eq_some_iff.mp read
    obtain ⟨inner, opened, behindName⟩ := Option.bind_eq_some_iff.mp arguments
    obtain ⟨⟨name, afterComma⟩, nameCut, behindComma⟩ := Option.bind_eq_some_iff.mp behindName
    obtain ⟨collection, named, built⟩ := Option.bind_eq_some_iff.mp behindComma
    split at built
    · exact absurd built (by simp)
    · next noBracket =>
      obtain ⟨afterBracket, bracketed, behindBracket⟩ := Option.bind_eq_some_iff.mp built
      obtain ⟨⟨body, afterBody⟩, bodyCut, closing⟩ := Option.bind_eq_some_iff.mp behindBracket
      dsimp only at closing
      split at closing
      · next closed =>
        obtain rfl := Option.some.inj closing
        obtain ⟨rfl, spelled⟩ := takeName?_eq_some_iff.mp taken
        obtain ⟨gap, isGap, rfl⟩ := (afterMark?_eq_some_iff (by decide)).mp opened
        obtain ⟨rfl, nameWhole⟩ := cutBefore?_eq_some_iff.mp nameCut
        obtain ⟨lead, isLead, rfl⟩ := (afterMark?_eq_some_iff (by decide)).mp bracketed
        obtain ⟨rfl, bodyWhole⟩ := cutBefore?_eq_some_iff.mp bodyCut
        obtain ⟨tail, isTail, rfl⟩ := (afterMark?_eq_some_iff (by decide)).mp closed
        exact .call isCommand spelled isGap (nameOf?_eq_some_iff.mp named) nameWhole
          (not_not.mp (mt (any_bracket_iff collection).mpr noBracket)) isLead bodyWhole isTail
      · exact absurd closing (by simp)
  · intro reads
    cases reads with
    | call isCommand spelled isGap named nameWhole noBracket isLead bodyWhole isTail =>
        have opened (rest : List Char) : afterMark? '(' (_ ++ '(' :: rest) = some rest :=
          isGap.afterMark?_eq (by decide) rest
        have bracketed (rest : List Char) : afterMark? '[' (_ ++ '[' :: rest) = some rest :=
          isLead.afterMark?_eq (by decide) rest
        have closed : afterMark? ')' (_ ++ [')']) = some [] :=
          isTail.afterMark?_eq (by decide) []
        have noBracket := mt (any_bracket_iff _).mp (not_not.mpr noBracket)
        rw [ofText?_of_takeName? isCommand (spelled.takeName?_eq _), arguments?]
        simp only [Option.bind_eq_bind, Option.bind_some, opened, cutBefore?_append nameWhole,
          nameOf?_eq_some_iff.mpr named, noBracket, bracketed, cutBefore?_append bodyWhole, closed]
        rfl

end CollectionCall

end SceneEditor
