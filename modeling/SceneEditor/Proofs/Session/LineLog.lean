import Mathlib.Data.List.DropRight
import SceneEditor.Proofs.Line.Expansion
import SceneEditor.Proofs.Text.Cut
import SceneEditor.Proofs.Text.LetterCase
import SceneEditor.Session.Lines

namespace SceneEditor

/-!
# What becomes of dispatched lines

Lines are dispatched, commands are sent and the history is browsed in any order, while the catalog
may change.  The lines as they were expanded tell everything: which texts were published, what the
history holds, and what the labels show.  Browsing leaves no trace, and a line that is blank or cannot
be expanded is as if it had not been given.
-/

/-- The text that was published, if the effect is one. -/
def Effect.published? : Effect → Option String
  | published text => some text
  | _ => none

/-!
## Texts that stay here
-/

namespace LineText

/-- The text sets what the labels show. -/
def shows (text : String) : Bool :=
  "showindexes".toList.isPrefixOf (lowered text).toList

/-- The text hides the labels. -/
def hides (text : String) : Bool :=
  lowered text == "hideindexes"

/-- The text clears the history. -/
def clears (text : String) : Bool :=
  lowered text == "clearhistory"

/-- A text that the session answers by itself. -/
def isLocal (text : String) : Bool :=
  shows text || hides text || clears text

/-- What the labels show after the text, if it speaks of them. -/
def mode? (text : String) : Option LabelMode :=
  if shows text then
    some (if digitInParentheses? (lowered text).toList = some 1 then .coordinates else .ids)
  else if hides text then some .hidden
  else none

/-- Something stands behind a mark exactly if the text begins with it. -/
theorem after?_isSome (mark text : List Char) :
    (Text.after? mark text).isSome = mark.isPrefixOf text := by
  rw [Bool.eq_iff_iff, List.isPrefixOf_iff_prefix, Option.isSome_iff_exists]
  constructor
  · rintro ⟨rest, found⟩
    exact ⟨rest, (Text.eq_append_of_after? found).symm⟩
  · rintro ⟨rest, rfl⟩
    exact ⟨rest, Text.after?_append mark rest⟩

/-- The order that a text is, told by what the text begins with or is. -/
theorem ofText?_lowered (text : String) :
    LocalOrder.ofText? (lowered text) =
      if shows text then some .showIndexes
      else if hides text then some .hideIndexes
      else if clears text then some .clearHistory
      else none := by
  rw [LocalOrder.ofText?]
  simp only [after?_isSome, shows, hides, clears, beq_iff_eq]
  rfl

/-- A text clears the history only if it does not speak of the labels. -/
theorem not_clears_of_hides
    {text : String}
    (hides : hides text = true) :
    clears text = false := by
  rw [LineText.hides, beq_iff_eq] at hides
  rw [clears, hides]
  decide

/-- No text both shows the labels and clears the history. -/
theorem not_clears_of_shows
    {text : String}
    (shows : shows text = true) :
    clears text = false := by
  rw [Bool.eq_false_iff]
  intro clears
  rw [LineText.clears, beq_iff_eq] at clears
  rw [LineText.shows, clears] at shows
  exact absurd shows (by decide)

/-- What begins with two other letters than the orders to this program is none of them. -/
theorem isLocal_eq_false
    {text : String}
    {c d : Char}
    {rest : List Char}
    (shape : text.toList = c :: d :: rest)
    (ascii : c.toNat < 0x80 ∧ d.toNat < 0x80)
    (other : [c.toLower, d.toLower] ∉ [['s', 'h'], ['h', 'i'], ['c', 'l']]) :
    isLocal text = false := by
  have front : (lowered text).toList.take 2 = [c.toLower, d.toLower] := by
    rw [lowered, String.toList_ofList, shape, Text.lower, Text.lowerAfter, Text.lowerAfter,
      Text.smallForm_of_ascii ascii.1, Text.smallForm_of_ascii ascii.2]
    rfl
  rw [Bool.eq_false_iff]
  intro isLocal
  rw [LineText.isLocal, Bool.or_eq_true, Bool.or_eq_true] at isLocal
  apply other
  rw [← front]
  rcases isLocal with (isShow | isHide) | isClear
  · obtain ⟨tail, begins⟩ := List.isPrefixOf_iff_prefix.mp isShow
    rw [← begins]
    exact List.mem_cons_self
  · rw [beq_iff_eq.mp isHide]
    decide
  · rw [beq_iff_eq.mp isClear]
    decide

end LineText

namespace Dispatcher

open LineText

/-!
## One line
-/

/-- A line that was expanded is noted, unless it clears the history. -/
theorem note_entries
    (dispatcher : Dispatcher)
    (typed : String)
    {text : String}
    (isTrimmed : trimmed text = text) :
    (dispatcher.note typed text).1.history.entries =
      if clears text then [] else dispatcher.history.entries ++ [text] := by
  unfold note
  dsimp only
  rw [isTrimmed, ofText?_lowered]
  cases shown : shows text with
  | true =>
      rw [not_clears_of_shows shown]
      simp only [if_true, carryOut, Bool.false_eq_true, if_false]
      split <;> rfl
  | false =>
      cases hidden : hides text with
      | true =>
          rw [not_clears_of_hides hidden]
          rfl
      | false =>
          cases cleared : clears text <;> rfl

/-- A noted text sets the label mode if it is one for it. -/
theorem note_labelMode
    (dispatcher : Dispatcher)
    (typed : String)
    {text : String}
    (isTrimmed : trimmed text = text) :
    (dispatcher.note typed text).1.labelMode = (mode? text).getD dispatcher.labelMode := by
  unfold note
  dsimp only
  rw [isTrimmed, ofText?_lowered, mode?]
  cases shown : shows text with
  | true =>
      simp only [if_true, carryOut]
      split <;> rfl
  | false =>
      cases hidden : hides text with
      | true =>
          rfl
      | false =>
          cases cleared : clears text <;> rfl

/-- A line that was expanded is published, unless it is an order to this program. -/
theorem note_published
    (dispatcher : Dispatcher)
    (typed : String)
    {text : String}
    (isTrimmed : trimmed text = text) :
    (dispatcher.note typed text).2.published = if isLocal text then [] else [text] := by
  unfold note
  dsimp only
  rw [isTrimmed, ofText?_lowered, isLocal]
  cases shown : shows text with
  | true =>
      rfl
  | false =>
      cases hidden : hides text with
      | true =>
          rfl
      | false =>
          cases cleared : clears text <;> rfl

end Dispatcher

/-- The text is published and noted in the history, and nothing else becomes of it. -/
structure Outcome.Forwards
    (outcome : Outcome α)
    (session : Session)
    (text : String) :
    Prop where
  effects : outcome.effects = [.published text]
  entries :
    outcome.session.dispatcher.history.entries =
      session.dispatcher.history.entries ++ [text]
  labelMode : outcome.session.dispatcher.labelMode = session.dispatcher.labelMode

/-!
## Calls
-/

/-- What is done with the dispatcher of a session. -/
inductive DispatcherCall where
  /-- Dispatch a line, with the catalog as it is then. -/
  | dispatch (catalog : Catalog) (line : String)
  | send (command : Command)
  | browseUp
  | browseDown
  deriving Repr

namespace DispatcherCall

/-- The line of a dispatch as it is expanded, unless it is blank or cannot be expanded. -/
def text? : DispatcherCall → Option String
  | dispatch catalog line =>
      if isBlankText line then none else (Dispatcher.expand catalog line).toOption
  | send _ | browseUp | browseDown => none

/-- The text that a call publishes. -/
def published? : DispatcherCall → Option String
  | send command => some command.wire
  | call => call.text?.filter fun text => !LineText.isLocal text

/-- What is given is published unless it is local. -/
theorem published?_dispatch
    (catalog : Catalog)
    (line : String) :
    (dispatch catalog line).published? =
      (dispatch catalog line).text?.filter fun text => !LineText.isLocal text :=
  rfl

/-- What is given is the expansion of a line that is not blank. -/
theorem expand_of_text?
    {catalog : Catalog}
    {line text : String}
    (given : (dispatch catalog line).text? = some text) :
    isBlankText line = false ∧ Dispatcher.expand catalog line = .ok text := by
  simp only [text?] at given
  split at given
  · exact absurd given (by simp)
  · next filled =>
    refine ⟨by simpa using filled, ?_⟩
    cases expanded : Dispatcher.expand catalog line with
    | error error =>
        rw [expanded] at given
        exact absurd given (by simp [Except.toOption])
    | ok expandedText =>
        rw [expanded] at given
        rw [Option.some.inj given]

end DispatcherCall

namespace Session

open LineText

/-- Do something with the dispatcher. -/
def call (session : Session) : DispatcherCall → Outcome Unit
  | .dispatch catalog line => (({ session with catalog }).dispatch line).map fun _ => ()
  | .send command => (session.sending (some command)).map fun _ => ()
  | .browseUp => session.browseUp.only ()
  | .browseDown => session.browseDown.only ()

/-- Do one thing after another, and collect the effects. -/
def callAll (session : Session) : List DispatcherCall → Outcome Unit
  | [] => session.only ()
  | call :: rest =>
      let first := session.call call
      let later := first.session.callAll rest
      { later with effects := first.effects ++ later.effects }

/-- The dispatcher is as some lines leave it. -/
structure HasLogged (session : Session) (texts : List String) : Prop where
  entries : session.dispatcher.history.entries = texts.rtakeWhile fun text => !clears text
  labelMode : session.dispatcher.labelMode = (texts.filterMap mode?).getLastD .ids

/-- What was logged depends on the history and the label mode only. -/
theorem HasLogged.of_same
    {session later : Session}
    {texts : List String}
    (logged : session.HasLogged texts)
    (entries : later.dispatcher.history.entries = session.dispatcher.history.entries)
    (labelMode : later.dispatcher.labelMode = session.dispatcher.labelMode) :
    later.HasLogged texts where
  entries := entries.trans logged.entries
  labelMode := labelMode.trans logged.labelMode

/-- What a dispatch does is told by the line as it was expanded. -/
theorem dispatch_of_text?
    (session : Session)
    {line text : String}
    (given : (DispatcherCall.dispatch session.catalog line).text? = some text) :
    (session.dispatch line).session.dispatcher =
        (session.dispatcher.note (trimmed line) text).1 ∧
      (session.dispatch line).effects =
        (session.dispatcher.note (trimmed line) text).2.published.map .published := by
  obtain ⟨filled, expanded⟩ := DispatcherCall.expand_of_text? given
  rw [dispatch, Dispatcher.dispatch_of_expanded filled expanded]
  generalize session.dispatcher.note (trimmed line) text = noted
  exact ⟨rfl, rfl⟩

/-- A line that is expanded to a text for the server is forwarded as that text. -/
theorem forwards_of_text?
    (session : Session)
    {line text : String}
    (given : (DispatcherCall.dispatch session.catalog line).text? = some text)
    (leaves : isLocal text = false) :
    (session.dispatch line).Forwards session text := by
  obtain ⟨noted, effects⟩ := session.dispatch_of_text? given
  have isTrimmed := Dispatcher.trimmed_expand (DispatcherCall.expand_of_text? given).2
  obtain ⟨speaks, clears⟩ := Bool.or_eq_false_iff.mp leaves
  obtain ⟨shows, hides⟩ := Bool.or_eq_false_iff.mp speaks
  constructor
  · rw [effects, Dispatcher.note_published _ _ isTrimmed, leaves]
    rfl
  · rw [noted, Dispatcher.note_entries _ _ isTrimmed, clears]
    rfl
  · rw [noted, Dispatcher.note_labelMode _ _ isTrimmed, mode?, shows, hides]
    rfl

/-- A line that is blank or cannot be expanded does nothing. -/
theorem dispatch_of_noText
    (session : Session)
    {line : String}
    (noText : (DispatcherCall.dispatch session.catalog line).text? = none) :
    (session.dispatch line).session = session ∧ (session.dispatch line).effects = [] := by
  simp only [DispatcherCall.text?] at noText
  rw [dispatch, Dispatcher.dispatch]
  split at noText
  · next blank =>
    rw [if_pos blank]
    exact ⟨rfl, rfl⟩
  · next filled =>
    rw [if_neg filled]
    dsimp only
    rw [Dispatcher.expand_trimmed]
    cases expanded : Dispatcher.expand session.catalog line with
    | error error =>
        exact ⟨rfl, rfl⟩
    | ok text =>
        rw [expanded] at noText
        exact absurd noText (by simp [Except.toOption])

/-- Browsing leaves the lines of the history alone. -/
theorem entries_browseUp (session : Session) :
    session.browseUp.dispatcher.history.entries = session.dispatcher.history.entries := by
  change session.dispatcher.history.previous.1.entries = _
  unfold History.previous
  split <;> rfl

theorem entries_browseDown (session : Session) :
    session.browseDown.dispatcher.history.entries = session.dispatcher.history.entries := by
  change session.dispatcher.history.next.1.entries = _
  unfold History.next
  split
  · rfl
  · split <;> rfl

/-- A line that is noted is the last of the lines. -/
theorem HasLogged.note
    {session later : Session}
    {texts : List String}
    (logged : session.HasLogged texts)
    {typed text : String}
    (isTrimmed : trimmed text = text)
    (noted : later.dispatcher = (session.dispatcher.note typed text).1) :
    later.HasLogged (texts ++ [text]) := by
  constructor
  · rw [noted, Dispatcher.note_entries _ _ isTrimmed, logged.entries, List.rtakeWhile_concat]
    cases clears text with
    | true =>
        rfl
    | false =>
        rfl
  · rw [noted, Dispatcher.note_labelMode _ _ isTrimmed, logged.labelMode, List.filterMap_append]
    cases mode : mode? text with
    | none =>
        simp [mode]
    | some told =>
        simp [mode]

/-- A call leaves the dispatcher as the lines so far and the line of the call do. -/
theorem HasLogged.call
    {session : Session}
    {texts : List String}
    (logged : session.HasLogged texts)
    (call : DispatcherCall) :
    (session.call call).session.HasLogged (texts ++ call.text?.toList) := by
  cases call with
  | send command =>
      rw [DispatcherCall.text?, Option.toList_none, List.append_nil]
      exact logged.of_same rfl rfl
  | browseUp =>
      rw [DispatcherCall.text?, Option.toList_none, List.append_nil]
      exact logged.of_same session.entries_browseUp rfl
  | browseDown =>
      rw [DispatcherCall.text?, Option.toList_none, List.append_nil]
      exact logged.of_same session.entries_browseDown rfl
  | dispatch catalog line =>
      cases given : (DispatcherCall.dispatch catalog line).text? with
      | none =>
          obtain ⟨same, -⟩ := { session with catalog }.dispatch_of_noText given
          have kept : (session.call (.dispatch catalog line)).session = { session with catalog } :=
            same
          rw [kept, Option.toList_none, List.append_nil]
          exact logged.of_same rfl rfl
      | some text =>
          have isTrimmed := Dispatcher.trimmed_expand (DispatcherCall.expand_of_text? given).2
          obtain ⟨noted, -⟩ := { session with catalog }.dispatch_of_text? given
          exact logged.note isTrimmed noted

/-- A call publishes its text, if it has one to publish. -/
theorem effects_call
    (session : Session)
    (call : DispatcherCall) :
    (session.call call).effects = call.published?.toList.map .published := by
  cases call with
  | send command =>
      rfl
  | browseUp =>
      rfl
  | browseDown =>
      rfl
  | dispatch catalog line =>
      rw [DispatcherCall.published?_dispatch]
      cases given : (DispatcherCall.dispatch catalog line).text? with
      | none =>
          exact ({ session with catalog }.dispatch_of_noText given).2
      | some text =>
          have isTrimmed := Dispatcher.trimmed_expand (DispatcherCall.expand_of_text? given).2
          obtain ⟨-, published⟩ := { session with catalog }.dispatch_of_text? given
          rw [Dispatcher.note_published _ _ isTrimmed] at published
          refine Eq.trans published ?_
          rw [Option.filter_some]
          cases isLocal text with
          | true =>
              rfl
          | false =>
              rfl

theorem filterMap_cons_append
    (f : α → Option β)
    (first : α)
    (rest : List α) :
    (first :: rest).filterMap f = (f first).toList ++ rest.filterMap f := by
  rw [List.filterMap_cons]
  cases f first with
  | none =>
      rfl
  | some value =>
      rfl

/-- Calls in a row publish their texts in this order, and leave what their lines leave. -/
theorem HasLogged.callAll
    {session : Session}
    {texts : List String}
    (logged : session.HasLogged texts)
    (calls : List DispatcherCall) :
    (session.callAll calls).session.HasLogged
        (texts ++ calls.filterMap DispatcherCall.text?) ∧
      (session.callAll calls).effects =
        (calls.filterMap DispatcherCall.published?).map .published := by
  induction calls generalizing session texts with
  | nil =>
      rw [List.filterMap_nil, List.append_nil]
      exact ⟨logged, rfl⟩
  | cons call rest inductionHypothesis =>
      obtain ⟨later, published⟩ := inductionHypothesis (logged.call call)
      constructor
      · rw [filterMap_cons_append, ← List.append_assoc]
        exact later
      · rw [filterMap_cons_append, List.map_append, ← session.effects_call, ← published]
        rfl

/-- A new dispatcher has logged nothing. -/
theorem hasLogged_new (session : Session) :
    { session with dispatcher := {} }.HasLogged [] where
  entries := rfl
  labelMode := rfl

/--
Whatever is dispatched, sent and browsed, and in whatever order: the texts of the sent commands and of
the lines that are no orders to this program are published in the order of the calls; the history holds
the lines since it was last cleared; the labels show what a line last said of them; and a line that is
an order to this program is never published.
-/
theorem callAll_logs
    (session : Session)
    (calls : List DispatcherCall) :
    let outcome := { session with dispatcher := {} }.callAll calls
    let lines := calls.filterMap DispatcherCall.text?
    outcome.effects = (calls.filterMap DispatcherCall.published?).map .published ∧
      outcome.session.dispatcher.history.entries =
        (lines.rtakeWhile fun text => !clears text) ∧
      outcome.session.dispatcher.labelMode = (lines.filterMap mode?).getLastD .ids ∧
      ∀ catalog line text,
        (DispatcherCall.dispatch catalog line).text? = some text →
          isLocal text = true →
            (outcome.session.call (.dispatch catalog line)).effects = [] := by
  obtain ⟨logged, published⟩ := session.hasLogged_new.callAll calls
  refine ⟨published, logged.entries, logged.labelMode, ?_⟩
  intro catalog line text given staysHere
  rw [effects_call, DispatcherCall.published?_dispatch, given, Option.filter_some, staysHere]
  rfl

/-- An order to this program is typed with blanks around it after some other calls. -/
theorem callAll_logs_order :
    let calls : List DispatcherCall :=
      [.dispatch {} "Clear()", .dispatch {} "ClearHistory", .send .play,
        .dispatch {} "ShowIndexes(1)", .browseUp, .dispatch {} " ", .dispatch {} "Stop()"]
    let outcome := { ({} : Session) with dispatcher := {} }.callAll calls
    (DispatcherCall.dispatch {} " HideIndexes ").text? = some "HideIndexes" ∧
      isLocal "HideIndexes" = true ∧
      outcome.effects =
        [.published "Clear()", .published "Play", .published "Stop()"] ∧
      outcome.session.dispatcher.history.entries = ["ShowIndexes(1)", "Stop()"] ∧
      outcome.session.dispatcher.labelMode = .coordinates ∧
      (outcome.session.call (.dispatch {} " HideIndexes ")).effects = [] := by
  intro calls outcome
  have given : (DispatcherCall.dispatch {} " HideIndexes ").text? = some "HideIndexes" := by
    decide +kernel
  have staysHere : isLocal "HideIndexes" = true := by
    decide +kernel
  obtain ⟨published, entries, labelMode, silent⟩ := callAll_logs {} calls
  refine ⟨given, staysHere, published.trans ?_, entries.trans ?_, labelMode.trans ?_,
    silent {} " HideIndexes " "HideIndexes" given staysHere⟩
  · decide +kernel
  · decide +kernel
  · decide +kernel

end Session

end SceneEditor
