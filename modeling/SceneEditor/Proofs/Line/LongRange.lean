import SceneEditor.Proofs.Line.Expansion
import SceneEditor.Proofs.Text.Cut
import SceneEditor.Session.Lines

namespace SceneEditor

open Attempt

/-!
# Lines that cannot be expanded

Only one thing keeps a line from being expanded: it is a call on a collection that names a range of
more points than a list may have, and in front of that range nothing is malformed.
-/

namespace PointRange

/-- The text is a range of more points than a list may have. -/
def TooLong (text : String) : Prop :=
  let body := Text.lower (Text.trim text.toList)
  Text.occurs ['.', '.'] body = true ∧
    ∃ start stop, ends? body = some (start, stop) ∧ memberLimit ≤ (stop - start).natAbs

/-- One of the texts is too long a range, and those in front of it are well formed. -/
def MeetsTooLong (members : List (List Char)) : Prop :=
  ∃ before member after,
    members = before ++ member :: after ∧
      (∀ earlier ∈ before, ∃ ids, expand? (String.ofList earlier) = .ok (some ids)) ∧
      TooLong (String.ofList member)

/-- A range fails exactly if it has more members than a list can have. -/
theorem idsBetween_failsIf (start stop : Int) :
    FailsIf (idsBetween start stop) .rangeTooLong (memberLimit ≤ (stop - start).natAbs) := by
  intro error
  have count :
      memberLimit < (max start stop - min start stop + 1).toNat ↔
        memberLimit ≤ (stop - start).natAbs := by
    generalize memberLimit = limit
    omega
  rw [idsBetween, ← count]
  split
  · next tooMany =>
    simp [tooMany, eq_comm]
  · next fits =>
    simp [fits]

/-- A text is too long a range, or it is read without a failure. -/
theorem expand?_failsIf (text : String) :
    FailsIf (expand? text) .rangeTooLong (TooLong text) := by
  rw [expand?, TooLong]
  generalize Text.lower (Text.trim text.toList) = body
  split
  · next blank =>
    rw [List.isEmpty_iff.mp blank]
    exact failsIf_of_ok (by simp [Text.occurs, Text.cutAt?, Text.after?])
  · split
    · next ranged =>
      cases given : ends? body with
      | none =>
          exact failsIf_of_ok (by simp)
      | some bounds =>
          rcases bounds with ⟨start, stop⟩
          refine ((idsBetween_failsIf start stop).map some).of_iff ⟨?_, ?_⟩
          · intro tooLong
            exact ⟨ranged, start, stop, rfl, tooLong⟩
          · rintro ⟨-, first, last, same, tooLong⟩
            obtain ⟨rfl, rfl⟩ := Prod.mk.inj (Option.some.inj same)
            exact tooLong
    · next single =>
      exact failsIf_of_ok (by simp [single])

/-- No members, no range. -/
theorem meetsTooLong_nil : ¬ MeetsTooLong [] := by
  rintro ⟨before, member, after, shape, -⟩
  exact absurd shape (by simp)

/-- The range that is too long is the first text, or comes after one that is well formed. -/
theorem meetsTooLong_cons_iff
    {member : List Char}
    {others : List (List Char)} :
    MeetsTooLong (member :: others) ↔
      TooLong (String.ofList member) ∨
        (∃ ids, expand? (String.ofList member) = .ok (some ids)) ∧ MeetsTooLong others := by
  constructor
  · rintro ⟨before, found, after, shape, wellFormed, tooLong⟩
    cases before with
    | nil =>
        obtain ⟨rfl, -⟩ := List.cons.inj shape
        exact Or.inl tooLong
    | cons first before =>
        obtain ⟨rfl, rest⟩ := List.cons.inj shape
        refine Or.inr ⟨wellFormed _ List.mem_cons_self, before, found, after, rest, ?_, tooLong⟩
        intro earlier isBefore
        exact wellFormed earlier (List.mem_cons_of_mem _ isBefore)
  · rintro (tooLong | ⟨wellFormed, before, found, after, rfl, restFormed, tooLong⟩)
    · exact ⟨[], member, others, rfl, by simp, tooLong⟩
    · refine ⟨member :: before, found, after, rfl, ?_, tooLong⟩
      intro earlier isBefore
      rcases List.mem_cons.mp isBefore with rfl | isBefore
      · exact wellFormed
      · exact restFormed earlier isBefore

/-- A list of members fails exactly if a range that is too long is met before a member that means
nothing. -/
theorem expandAll?_failsIf (members : List (List Char)) :
    FailsIf (expandAll? members) .rangeTooLong (MeetsTooLong members) := by
  induction members with
  | nil =>
      exact failsIf_of_ok meetsTooLong_nil
  | cons member others inductionHypothesis =>
      rw [expandAll?]
      cases read : expand? (String.ofList member) with
      | error error =>
          obtain ⟨rfl, tooLong⟩ := (expand?_failsIf _ error).mp read
          exact failsIf_of_error (meetsTooLong_cons_iff.mpr (Or.inl tooLong))
      | ok ids? =>
          have fits : ¬ TooLong (String.ofList member) := by
            intro tooLong
            rw [(expand?_failsIf _).fails tooLong] at read
            exact absurd read (by simp)
          cases ids? with
          | none =>
              refine failsIf_of_ok ?_
              rw [meetsTooLong_cons_iff, read]
              simp [fits]
          | some ids =>
              refine (inductionHypothesis.bind_ok fun _ => ⟨_, rfl⟩).of_iff ?_
              rw [meetsTooLong_cons_iff, read]
              simp [fits]

end PointRange

namespace CollectionCall

/-- The text is a call on a collection that names a range that is too long. -/
def NamesTooMany (text : List Char) : Prop :=
  ∃ call,
    ofText? text = some call ∧
      Text.occurs ['.', '.'] call.body = true ∧
      PointRange.MeetsTooLong (Text.pieces ',' call.body)

theorem all_isBlank_of_occurs
    {text : List Char}
    (occurs : Text.occurs ['.', '.'] text = true) :
    text.all Text.isBlank = false := by
  obtain ⟨⟨before, rest⟩, found⟩ := Option.isSome_iff_exists.mp occurs
  rw [Text.eq_append_of_cutAt? found]
  have dot : Text.isBlank '.' = false := by decide
  simp [dot]

/-- What is no call on a collection names no points. -/
theorem not_namesTooMany
    {text : List Char}
    (read : ofText? text = none) :
    ¬ NamesTooMany text := by
  rintro ⟨call, otherRead, -⟩
  exact absurd (read.symm.trans otherRead) (by simp)

/-- Ranges are written out unless one of them is too long. -/
theorem expandRanges_failsIf (text : String) :
    FailsIf (expandRanges text) .rangeTooLong (NamesTooMany (Text.trim text.toList)) := by
  rw [expandRanges, NamesTooMany]
  cases read : ofText? (Text.trim text.toList) with
  | none =>
      exact failsIf_of_ok (by simp)
  | some call =>
      dsimp only
      split
      · next ranged =>
        have listed :
            FailsIf (PointRange.expandList? (String.ofList call.body)) .rangeTooLong
              (PointRange.MeetsTooLong (Text.pieces ',' call.body)) := by
          rw [PointRange.expandList?, String.toList_ofList, all_isBlank_of_occurs ranged,
            if_neg Bool.false_ne_true]
          exact PointRange.expandAll?_failsIf _
        refine (listed.bind_ok ?_).of_iff (by simp [ranged])
        intro ids?
        cases ids? with
        | none =>
            exact ⟨text, rfl⟩
        | some ids =>
            exact ⟨call.withPoints ids, rfl⟩
      · next single =>
        exact failsIf_of_ok (by simp [single])

/-!
## Texts that are no calls on a collection
-/

/-- A call on a collection begins with one of two letters. -/
theorem head_of_ofText?
    {c : Char}
    {rest : List Char}
    {call : CollectionCall}
    (read : ofText? (c :: rest) = some call) :
    c.toLower = 'a' ∨ c.toLower = 'r' := by
  obtain ⟨name, member, read⟩ := List.exists_of_findSome?_eq_some read
  obtain ⟨⟨command, after⟩, taken, -⟩ := Option.bind_eq_some_iff.mp read
  have letters :
      ∀ name ∈ commands,
        ∃ letter letters, name = letter :: letters ∧ (letter = 'a' ∨ letter = 'r') := by
    intro name member
    simp only [commands, List.mem_cons, List.not_mem_nil, or_false] at member
    rcases member with rfl | rfl | rfl
    · exact ⟨'a', "ddcollection".toList, by decide, Or.inl rfl⟩
    · exact ⟨'a', "ddtocollection".toList, by decide, Or.inl rfl⟩
    · exact ⟨'r', "emovefromcollection".toList, by decide, Or.inr rfl⟩
  obtain ⟨letter, others, rfl, isLetter⟩ := letters name member
  obtain ⟨first, tail, shape, stands⟩ := CallText.standsFor_of_takeName? taken
  obtain ⟨rfl, rfl⟩ := List.cons.inj shape
  rcases isLetter with rfl | rfl
  · left
    simpa [CallText.standsFor] using stands
  · right
    simpa [CallText.standsFor] using stands

/-- A text with another first letter changes no collection. -/
theorem ofText?_of_head
    {c : Char}
    (other : c.toLower ≠ 'a' ∧ c.toLower ≠ 'r')
    (rest : List Char) :
    ofText? (c :: rest) = none := by
  rw [Option.eq_none_iff_forall_ne_some]
  intro call read
  rcases head_of_ofText? read with first | first
  · exact other.1 first
  · exact other.2 first

end CollectionCall

/-- A connect call begins with its own letter. -/
theorem ConnectCall.head_of_ofText?
    {c : Char}
    {rest : List Char}
    {call : ConnectCall}
    (read : ofText? (c :: rest) = some call) :
    c.toLower = 'c' := by
  obtain ⟨⟨command, after⟩, taken, -⟩ := Option.bind_eq_some_iff.mp read
  obtain ⟨first, tail, shape, stands⟩ := CallText.standsFor_of_takeName? taken
  obtain ⟨rfl, rfl⟩ := List.cons.inj shape
  have stands : CallText.standsFor 'c' c = true := stands
  simpa [CallText.standsFor] using stands

/-- A text with another first letter connects no points. -/
theorem ConnectCall.ofText?_of_head
    {c : Char}
    (other : c.toLower ≠ 'c')
    (rest : List Char) :
    ofText? (c :: rest) = none := by
  rw [Option.eq_none_iff_forall_ne_some]
  intro call read
  exact other (head_of_ofText? read)

/-- No text is both a connect call and a call on a collection. -/
theorem CollectionCall.ofText?_of_connect
    {text : List Char}
    {call : ConnectCall}
    (read : ConnectCall.ofText? text = some call) :
    ofText? text = none := by
  cases text with
  | nil =>
      exact absurd read (by simp [ConnectCall.ofText?, CallText.takeName?])
  | cons c rest =>
      have letter := ConnectCall.head_of_ofText? read
      exact ofText?_of_head (by rw [letter]; decide) rest

/-- What changes a collection connects no points. -/
theorem ConnectCall.ofText?_of_collection
    {text : List Char}
    {call : CollectionCall}
    (read : CollectionCall.ofText? text = some call) :
    ofText? text = none := by
  rw [Option.eq_none_iff_forall_ne_some]
  intro connect other
  exact absurd ((CollectionCall.ofText?_of_connect other).symm.trans read) (by simp)

/-- A connection with its material written out changes no collection. -/
theorem CollectionCall.ofText?_withMaterial
    (call : ConnectCall)
    (material : Material) :
    ofText? (call.withMaterial material).wire.toList = none := by
  obtain ⟨arguments, shape⟩ := call.withMaterial_wire material
  rw [shape]
  exact ofText?_of_head (by decide) _

namespace Dispatcher

/-- A line can be expanded unless it is a call on a collection with a range that is too long. -/
theorem expand_failsIf
    (catalog : Catalog)
    (line : String) :
    FailsIf (expand catalog line) .rangeTooLong
      (CollectionCall.NamesTooMany (Text.trim line.toList)) := by
  have resolved := CollectionCall.expandRanges_failsIf
    (ConnectCall.resolveMaterial catalog (trimmed line))
  refine resolved.of_iff ?_
  rcases ConnectCall.resolveMaterial_cases catalog (trimmed line) with
    same | ⟨call, material, read, wire⟩
  · rw [same, trimmed, String.toList_ofList, Text.trim_trim]
  · rw [trimmed, String.toList_ofList, Text.trim_trim] at read
    rw [wire, (call.isTrimmed_withMaterial material).trim_eq]
    exact iff_of_false
      (CollectionCall.not_namesTooMany (CollectionCall.ofText?_withMaterial call material))
      (CollectionCall.not_namesTooMany (CollectionCall.ofText?_of_connect read))

/-- A line fails to be dispatched exactly if it names more points than a list can have. -/
theorem dispatch_failsIf
    (dispatcher : Dispatcher)
    (catalog : Catalog)
    (line : String) :
    FailsIf (dispatcher.dispatch catalog line) .rangeTooLong
      (CollectionCall.NamesTooMany (Text.trim line.toList)) := by
  rw [dispatch]
  split
  · next blank =>
    have nothing : Text.trim line.toList = [] := Text.trim_of_all blank
    rw [nothing]
    exact failsIf_of_ok (CollectionCall.not_namesTooMany (by decide))
  · dsimp only
    rw [expand_trimmed]
    exact (expand_failsIf catalog line).bind_ok fun _ => ⟨_, rfl⟩

end Dispatcher

namespace Session

/-- A line is dispatched unless it is a call on a collection with a range that is too long. -/
theorem dispatch_failsIf
    (session : Session)
    (line : String) :
    FailsIf (session.dispatch line).result .rangeTooLong
      (CollectionCall.NamesTooMany (Text.trim line.toList)) := by
  intro error
  rw [← session.dispatcher.dispatch_failsIf session.catalog line error, dispatch]
  cases session.dispatcher.dispatch session.catalog line with
  | error other =>
      simp [only]
  | ok dispatched =>
      simp

/-- Where a range is too long the line fails, and nothing else happens. -/
theorem dispatch_of_namesTooMany
    (session : Session)
    {line : String}
    (tooMany : CollectionCall.NamesTooMany (Text.trim line.toList)) :
    session.dispatch line = session.only (.error .rangeTooLong) := by
  rw [dispatch, (session.dispatcher.dispatch_failsIf session.catalog line).fails tooMany]

end Session

end SceneEditor
