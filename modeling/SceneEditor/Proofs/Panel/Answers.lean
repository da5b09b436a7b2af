import SceneEditor.Proofs.Panel.Turns
import SceneEditor.Proofs.Session.Success

namespace SceneEditor

open Attempt

/-!
# What lines at the prompt are answered

A line ends the session exactly if it names one of the orders to do so.  Every other line is answered
whatever may be wrong with it, with three exceptions, all of which are numbers out of range: a range of
points that is too long for a list, a connection that spans too far for its length to be
computed, and a material that is too thick to be shown.
-/

namespace Panel

/-- The number out of range that keeps an order from being carried out. -/
def Order.Fails (session : Session) (error : NumberError) : Order → Prop
  | .showMaterials =>
      error = .integerTooLarge ∧ ∃ material ∈ session.catalog.materials, material.TooThick
  | .showBill =>
      error = .squareTooLarge ∧
        ∃ connection ∈ session.world.connections, connection.SpansTooFar session.world.points
  | _ => False

/-- The number out of range that keeps a line from being carried out. -/
def Line.Fails (session : Session) (error : NumberError) : Line → Prop
  | .command text =>
      error = .rangeTooLong ∧ CollectionCall.NamesTooMany (Text.trim text.toList)
  | .order given => given.Fails session error
  | .blank | .quit | .unknown _ | .faulty _ => False

/-- Showing lines fails exactly if they cannot be made. -/
theorem showingAll_failsIf
    (session : Session)
    {lines : Except NumberError (List String)}
    {failure : NumberError}
    {condition : Prop}
    (failsIf : FailsIf lines failure condition) :
    FailsIf (showingAll session lines).result failure condition := by
  intro error
  rw [← failsIf error]
  cases lines with
  | error other =>
      simp [showingAll, Session.only]
  | ok lines =>
      simp [showingAll, showing, done]

/-- An attempt with a result is answered. -/
theorem attempted_ok
    {outcome : Outcome (Except NumberError α)}
    (succeeds : ∃ value, outcome.result = .ok value)
    (lines : α → List String) :
    ∃ result, (attempted outcome lines).result = .ok result := by
  obtain ⟨value, result⟩ := succeeds
  rw [attempted, result]
  exact ⟨_, rfl⟩

/-- An edit of a material is always answered. -/
theorem updateMaterial_ok
    (session : Session)
    (id field value : String) :
    ∃ result, (updateMaterial session id field value).result = .ok result := by
  unfold updateMaterial Session.updateMaterial
  cases updated : session.catalog.update id field (.string value) with
  | ok changed =>
      exact ⟨_, rfl⟩
  | error error =>
      obtain rfl := Catalog.update_string updated
      exact ⟨_, rfl⟩

/-- A deletion of a clip is always answered. -/
theorem deleteClip_ok
    (session : Session)
    (id : String)
    (agrees : Bool) :
    ∃ result, (deleteClip session id agrees).result = .ok result := by
  unfold deleteClip
  dsimp only
  split
  · exact ⟨_, rfl⟩
  · exact ⟨_, rfl⟩

/-- Two orders fail if a number is out of range, and no other order does. -/
theorem perform_eq_error_iff
    {session : Session}
    {checked : TimelineSettings}
    (accepted : session.timeline.settings.check = .ok checked)
    {agrees : Bool}
    {order : Order}
    {error : NumberError} :
    (perform session agrees order).result = .error error ↔ order.Fails session error := by
  cases order with
  | showMaterials =>
      exact showingAll_failsIf session (materialLines_failsIf session) error
  | showBill =>
      exact showingAll_failsIf session ((Bill.of_failsIf _ _ _).map billLines) error
  | help | showPoints | recolor | deletePoint | addMaterial | build | click =>
      exact not_error_of_ok ⟨_, rfl⟩
  | showClips | togglePlay | stop | undo | redo =>
      exact not_error_of_ok ⟨_, rfl⟩
  | movePoint id x y z =>
      exact not_error_of_ok (attempted_ok (session.editPoint_string id x y z) _)
  | updateMaterial id field value =>
      exact not_error_of_ok (updateMaterial_ok session id field value)
  | deleteClip id =>
      exact not_error_of_ok (deleteClip_ok session id agrees)
  | seek time =>
      exact not_error_of_ok (attempted_ok (Session.seek_ok accepted time) _)
  | newProject =>
      exact not_error_of_ok (attempted_ok (session.newProject_ok agrees) _)
  | save =>
      exact not_error_of_ok (attempted_ok session.save_ok _)
  | saveAs name =>
      exact not_error_of_ok (attempted_ok (session.saveAs_ok name _) _)
  | load id name? =>
      exact not_error_of_ok (attempted_ok (session.loadProject_ok id name?) _)

/-!
## Lines
-/

/-- The line is a colon with words behind it, the first of which ends the session. -/
def EndsSession (line : String) : Prop :=
  ∃ rest word others,
    Text.trim line.toList = ':' :: rest ∧
      Text.words rest = .ok (word :: others) ∧
      String.ofList word ∈ quitNames

/-- The words that quit begin with a name for it. -/
theorem ofWords_eq_quit_iff {words : List String} :
    Line.ofWords words = .quit ↔ ∃ name others, words = name :: others ∧ name ∈ quitNames := by
  cases words with
  | nil =>
      simp [Line.ofWords]
  | cons name others =>
      rw [Line.ofWords]
      split
      · next isQuit =>
        have member : name ∈ quitNames := by simpa using isQuit
        exact iff_of_true rfl ⟨name, others, rfl, member⟩
      · next notQuit =>
        have noMember : name ∉ quitNames := by simpa using notQuit
        refine iff_of_false ?_ ?_
        · split <;> simp
        · rintro ⟨found, rest, shape, member⟩
          obtain ⟨rfl, -⟩ := List.cons.inj shape
          exact noMember member

/-- The lines that quit are those that end the session. -/
theorem read_eq_quit_iff {line : String} :
    Line.read line = .quit ↔ EndsSession line := by
  unfold Line.read EndsSession
  split
  · next blank =>
    simp [blank]
  · next rest isOrder =>
    cases read : Text.words rest with
    | error error =>
        simp [read, isOrder]
    | ok words =>
        dsimp only
        rw [ofWords_eq_quit_iff]
        constructor
        · rintro ⟨name, others, shape, isQuit⟩
          obtain ⟨word, tail, rfl, rfl, -⟩ := List.map_eq_cons_iff.mp shape
          exact ⟨rest, word, tail, isOrder, read, isQuit⟩
        · rintro ⟨after, word, others, sameLine, sameWords, isQuit⟩
          obtain ⟨-, rfl⟩ := List.cons.inj (isOrder.symm.trans sameLine)
          obtain rfl := Except.ok.inj (read.symm.trans sameWords)
          exact ⟨String.ofList word, others.map String.ofList, rfl, isQuit⟩
  · next text notOrder =>
    refine iff_of_false (by simp) ?_
    rintro ⟨rest, -, -, isOrder, -⟩
    exact notOrder rest isOrder

/-- Submitting comes to what dispatching the prompt comes to. -/
theorem submit_result (session : Session) :
    session.submit.result = (session.dispatch session.prompt.text).result := by
  unfold Session.submit
  dsimp only
  split <;> rfl

/-- Finishing passes an error on. -/
theorem finish_eq_error_iff
    {outcome : Outcome Result}
    {error : NumberError} :
    (finish outcome).result = .error error ↔ outcome.result = .error error := by
  unfold finish
  split
  · next other fails =>
    simp [Outcome.map, fails]
  · next succeeds =>
    simp [Outcome.map, succeeds]
  · next other told =>
    simp [Outcome.map, told]

theorem finish_ne_false (outcome : Outcome Result) :
    (finish outcome).result ≠ .ok false := by
  unfold finish
  split
  · simp [Outcome.map]
  · simp [Outcome.map]
  · simp [Outcome.map]

/-- A line fails exactly where its reading does. -/
theorem handle_eq_error_iff
    {session : Session}
    {checked : TimelineSettings}
    (accepted : session.timeline.settings.check = .ok checked)
    {agrees : Bool}
    {line : String}
    {error : NumberError} :
    (handle session agrees line).result = .error error ↔
      (Line.read line).Fails session error := by
  unfold handle
  cases Line.read line with
  | blank | quit =>
      exact not_error_of_ok ⟨_, rfl⟩
  | unknown | faulty =>
      exact finish_eq_error_iff.trans (not_error_of_ok ⟨_, rfl⟩)
  | order given =>
      exact finish_eq_error_iff.trans (perform_eq_error_iff accepted)
  | command text =>
      have dispatched := ((session.type text).dispatch_failsIf text).map fun _ => true
      change (session.type text).submit.result.map _ = _ ↔ _
      rw [submit_result]
      exact dispatched error

/-- Only a line that ends the session ends it. -/
theorem handle_eq_ok_false_iff
    {session : Session}
    {agrees : Bool}
    {line : String} :
    (handle session agrees line).result = .ok false ↔ EndsSession line := by
  rw [← read_eq_quit_iff]
  unfold handle
  cases Line.read line with
  | quit =>
      exact iff_of_true rfl rfl
  | blank =>
      simp [Session.only]
  | unknown | faulty | order =>
      simp [finish_ne_false]
  | command text =>
      change (session.type text).submit.result.map _ = _ ↔ _
      cases (session.type text).submit.result with
      | error error =>
          simp [Except.map]
      | ok dispatched? =>
          simp [Except.map]

/-- Any other line that does not fail goes on. -/
theorem handle_eq_ok_true_iff
    {session : Session}
    {checked : TimelineSettings}
    (accepted : session.timeline.settings.check = .ok checked)
    {agrees : Bool}
    {line : String} :
    (handle session agrees line).result = .ok true ↔
      ¬ EndsSession line ∧ ∀ error, ¬ (Line.read line).Fails session error := by
  have ends : (handle session agrees line).result = .ok false ↔ EndsSession line :=
    handle_eq_ok_false_iff
  have fails (error : NumberError) :
      (handle session agrees line).result = .error error ↔
        (Line.read line).Fails session error :=
    handle_eq_error_iff accepted
  simp only [← ends, ← fails]
  cases (handle session agrees line).result with
  | error error =>
      simp
  | ok goesOn =>
      cases goesOn with
      | false =>
          simp
      | true =>
          simp

/--
Whatever came in and was typed before, and whatever is typed now and answered to its question: the
line ends the session exactly if its first word behind the colon is one of the orders to do so.  It
escapes the prompt only for a number out of range, and in every other case the session goes on.  No
material is too thick to be shown unless the catalog has some `2 ^ 1023` materials.
-/
theorem takeTurns_answers
    {settings checked : TimelineSettings}
    (accepted : settings.check = .ok checked)
    (answer? : Option Bool)
    (turns : List Turn)
    (agrees : Bool)
    (line : String) :
    let session := (Session.fresh answer? settings).takeTurns turns
    ((handle session agrees line).result = .ok false ↔ EndsSession line) ∧
      (∀ error,
        (handle session agrees line).result = .error error ↔
          (Line.read line).Fails session error) ∧
      ((handle session agrees line).result = .ok true ↔
        ¬ EndsSession line ∧ ∀ error, ¬ (Line.read line).Fails session error) ∧
      ((∃ material ∈ session.catalog.materials, material.TooThick) →
        2 ^ Binary64.safeIntegerBits ≤ session.catalog.size + 2) := by
  intro session
  obtain ⟨actions, reached⟩ := (Session.fresh answer? settings).exists_run_takeTurns turns
  have sameSettings : session.timeline.settings = settings := by
    rw [show session = _ from reached, Session.settings_run]
    rfl
  have accepted : session.timeline.settings.check = .ok checked := by
    rw [sameSettings]
    exact accepted
  refine ⟨handle_eq_ok_false_iff, fun error => handle_eq_error_iff accepted,
    handle_eq_ok_true_iff accepted, ?_⟩
  rintro ⟨material, member, tooThick⟩
  have within : session.catalog.ThicknessWithin := by
    rw [show session = _ from reached]
    exact Session.thicknessWithin_run answer? settings actions
  exact within.size_of_tooThick member tooThick

/-- A malformed message and a faulty line came before, and then the session is ended. -/
theorem takeTurns_answers_exit :
    let session := (Session.fresh none {}).takeTurns
      [.message (.text "nothing"), .line true ":rm p1", .line false ":edit"]
    ({} : TimelineSettings).check = .ok {} ∧
      (handle session false " :exit 'now'\t").result = .ok false ∧
      (handle session false ":bom").result = .ok true := by
  intro session
  have accepted : ({} : TimelineSettings).check = .ok {} :=
    eq_ok_of_toOption (by decide +kernel)
  obtain ⟨ends, -⟩ := takeTurns_answers accepted none
    [.message (.text "nothing"), .line true ":rm p1", .line false ":edit"] false " :exit 'now'\t"
  refine ⟨accepted, ends.mpr ?_, ?_⟩
  · refine ⟨"exit 'now'".toList, "exit".toList, ["now".toList], by decide +kernel, ?_, by decide⟩
    exact eq_ok_of_toOption (by decide +kernel)
  · exact eq_ok_of_toOption (by decide +kernel)

/-- Two points that are too far apart end the client, and so does a range that is too long. -/
theorem takeTurns_escapes :
    let far : Message :=
      .text ("\x7b\"points\": [\x7b\"id\": 1, \"x\": 1e200, \"y\": 0, \"z\": 0\x7d, "
        ++ "\x7b\"id\": 2, \"x\": -1e200, \"y\": 0, \"z\": 0\x7d], \"connections\": "
        ++ "[\x7b\"fromId\": 1, \"toId\": 2, \"color\": \"red\", \"thickness\": 2\x7d]\x7d")
    let session := (Session.fresh none {}).takeTurns [.message far]
    (session.receive far).result = true ∧
      (handle session false ":bom").result = .error .squareTooLarge ∧
      (handle session false "AddToCollection(hall, [p1..p99999999999999999999])").result =
        .error .rangeTooLong := by
  intro far session
  refine ⟨by decide +kernel, ?_, ?_⟩
  · exact eq_error_of_failure? (by decide +kernel)
  · exact eq_error_of_failure? (by decide +kernel)

end Panel

end SceneEditor
