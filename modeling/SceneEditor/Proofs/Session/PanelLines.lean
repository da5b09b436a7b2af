import SceneEditor.Proofs.Line.WrittenCalls
import SceneEditor.Proofs.Session.Consent

namespace SceneEditor

open CallText Attempt

/-!
# Lines of the panels

The panels of collections and projects have their commands dispatched as lines, as if they were
typed.  Such a line is expanded to itself, whatever names are in it.  Only the name of a collection
that begins a list with too long a range keeps the line from being dispatched.
-/

namespace Command

/-- The command is one that the panels have dispatched. -/
def isDispatched : Command → Bool
  | addCollection _ _ | addToCollection _ _ | removeFromCollection _ _ | renameCollection _ _
  | saveProject _ | loadProject _ | clear => true
  | _ => false

/-- The name of the collection whose points the command lists. -/
def listed? : Command → Option String
  | addCollection name _ | addToCollection name _ | removeFromCollection name _ => some name
  | _ => none

/-- The command lists points of a collection whose name begins a list of too many points. -/
def OpensTooMany (command : Command) : Prop :=
  ∃ name ∈ command.listed?, CollectionCall.OpensTooMany name.toList

/-- A command that is dispatched has no blanks at its ends. -/
theorem trim_wire
    {command : Command}
    (isDispatched : command.isDispatched = true) :
    Text.trim command.wire.toList = command.wire.toList := by
  have notRaw : command.isRaw = false := by
    cases command with
    | raw text =>
        exact absurd isDispatched (by simp [Command.isDispatched])
    | _ =>
        rfl
  have kept := congrArg String.toList (trimmed_wire notRaw)
  rwa [trimmed, String.toList_ofList] at kept

/-- A call with a list of points is written as a call of a collection. -/
theorem toList_listCall
    (name collection : String)
    (ids : List Int) :
    (Shape.call name [collection, pointList ids]).text.toList =
      CollectionCall.written name.toList collection.toList
        (commaList (ids.map pointRef)).toList := by
  simp [Shape.text, commaList, pointList, CollectionCall.written]

/-- A command that lists points is written as a call on a collection. -/
theorem exists_written
    {command : Command}
    {collection : String}
    (isListed : command.listed? = some collection) :
    ∃ known ∈ CollectionCall.commands, ∃ (name : List Char) (ids : List Int),
      Spells known name ∧
        command.wire.toList =
          CollectionCall.written name collection.toList (commaList (ids.map pointRef)).toList := by
  cases command with
  | addCollection other ids =>
      obtain rfl := Option.some.inj isListed
      exact ⟨"addcollection".toList, by decide, "AddCollection".toList, ids,
        Spells.of_takeName? (by decide), toList_listCall _ _ ids⟩
  | addToCollection other ids =>
      obtain rfl := Option.some.inj isListed
      exact ⟨"addtocollection".toList, by decide, "AddToCollection".toList, ids,
        Spells.of_takeName? (by decide), toList_listCall _ _ ids⟩
  | removeFromCollection other ids =>
      obtain rfl := Option.some.inj isListed
      exact ⟨"removefromcollection".toList, by decide, "RemoveFromCollection".toList, ids,
        Spells.of_takeName? (by decide), toList_listCall _ _ ids⟩
  | _ =>
      exact absurd isListed (by simp [listed?])

/-!
## Commands that are left alone
-/

/-- The first two letters of the calls among the commands. -/
def callLetters : List (Char × Char) :=
  [('A', 'd'), ('R', 'e'), ('S', 'a'), ('L', 'o')]

/-- A command that is dispatched clears the scene or begins with its letters. -/
theorem eq_clear_or_letters
    {command : Command}
    (isDispatched : command.isDispatched = true) :
    command = clear ∨
      ∃ letters ∈ callLetters, ∃ rest,
        command.wire.toList = letters.1 :: letters.2 :: rest := by
  have ofName {name : String} {c d : Char} {rest : List Char} (spelled : name.toList = c :: d :: rest)
      (areLetters : (c, d) ∈ callLetters) (arguments : List String) :
      ∃ letters ∈ callLetters, ∃ rest,
        (Shape.call name arguments).text.toList = letters.1 :: letters.2 :: rest :=
    ⟨(c, d), areLetters, _, toList_call spelled arguments⟩
  cases command with
  | clear =>
      exact .inl rfl
  | addCollection | addToCollection | removeFromCollection | renameCollection | saveProject
  | loadProject =>
      exact .inr (ofName rfl (by decide) _)
  | _ =>
      exact absurd isDispatched (by simp [Command.isDispatched])

/-- No command that is dispatched connects points. -/
theorem noConnect_wire
    {command : Command}
    (isDispatched : command.isDispatched = true) :
    ConnectCall.ofText? command.wire.toList = none := by
  have other : ∀ letters ∈ callLetters, letters.1.toLower ≠ 'c' := by decide
  rcases eq_clear_or_letters isDispatched with rfl | ⟨letters, areLetters, rest, shape⟩
  · decide
  · rw [shape]
    exact ConnectCall.ofText?_of_head (other letters areLetters) _

/-- The name of the one call that is not on the points of a collection is told by a letter. -/
theorem noCollection_renameCollection (oldName newName : String) :
    CollectionCall.ofText? (renameCollection oldName newName).wire.toList = none := by
  have spelled : takeName? "renamecollection".toList "RenameCollection".toList =
      some ("RenameCollection".toList, []) := by
    decide
  have shape : (renameCollection oldName newName).wire.toList =
      "RenameCollection".toList ++ '(' :: ((commaList [oldName, newName]).toList ++ [')']) := by
    simp [wire, Command.shape, Shape.text]
  have differs : ∀ known ∈ CollectionCall.commands, Differ "renamecollection".toList known := by
    intro known isCommand
    simp only [CollectionCall.commands, List.mem_cons, List.not_mem_nil, or_false] at isCommand
    rcases isCommand with rfl | rfl | rfl
    · exact .of_letters 0 rfl rfl (by decide) (by decide)
    · exact .of_letters 0 rfl rfl (by decide) (by decide)
    · exact .of_letters 2 rfl rfl (by decide) (by decide)
  rw [shape]
  refine List.findSome?_eq_none_iff.mpr fun known isCommand => ?_
  rw [(differs known isCommand).takeName?_eq_none (takeName?_append spelled _)]
  rfl

/-- A command without a list changes no collection. -/
theorem noCollection_wire
    {command : Command}
    (isDispatched : command.isDispatched = true)
    (unlisted : command.listed? = none) :
    CollectionCall.ofText? command.wire.toList = none := by
  cases command with
  | clear =>
      decide
  | renameCollection oldName newName =>
      exact noCollection_renameCollection oldName newName
  | saveProject name =>
      rw [wire, shape, toList_call rfl]
      exact CollectionCall.ofText?_of_head (by decide) _
  | loadProject id =>
      rw [wire, shape, toList_call rfl]
      exact CollectionCall.ofText?_of_head (by decide) _
  | addCollection | addToCollection | removeFromCollection =>
      exact absurd unlisted (by simp [listed?])
  | _ =>
      exact absurd isDispatched (by simp [Command.isDispatched])

/-- A command of the panels names too many points exactly if the name of its collection does. -/
theorem namesTooMany_wire_iff
    {command : Command}
    (isDispatched : command.isDispatched = true) :
    CollectionCall.NamesTooMany command.wire.toList ↔ command.OpensTooMany := by
  cases isListed : command.listed? with
  | none =>
      refine iff_of_false ?_ ?_
      · exact CollectionCall.not_namesTooMany (noCollection_wire isDispatched isListed)
      · rintro ⟨collection, same, -⟩
        exact absurd (isListed.symm.trans same) (by simp)
  | some collection =>
      obtain ⟨known, isCommand, name, ids, spelled, written⟩ := exists_written isListed
      rw [written, CollectionCall.namesTooMany_written_iff isCommand spelled
        (notMem_commaList (by decide) ids) (notMem_commaList (by decide) ids), OpensTooMany,
        isListed]
      constructor
      · intro opens
        exact ⟨collection, rfl, opens⟩
      · rintro ⟨other, same, opens⟩
        obtain rfl := Option.some.inj same
        exact opens

/-- No command that is dispatched has a range in it. -/
theorem not_isRanged_wire
    {command : Command}
    (isDispatched : command.isDispatched = true)
    (call : CollectionCall)
    (ids : List Int) :
    ¬ CollectionCall.IsRanged command.wire.toList call ids := by
  cases isListed : command.listed? with
  | none =>
      intro isRanged
      have noCollection := noCollection_wire isDispatched isListed
      exact absurd (noCollection.symm.trans isRanged.read) (by simp)
  | some collection =>
      obtain ⟨known, isCommand, name, points, spelled, written⟩ := exists_written isListed
      rw [written]
      exact CollectionCall.not_isRanged_written isCommand spelled
        (notMem_commaList (by decide) points) call ids

/-- A command of the panels is expanded to itself. -/
theorem expand_wire
    {command : Command}
    (isDispatched : command.isDispatched = true)
    (fits : ¬ command.OpensTooMany)
    (catalog : Catalog) :
    Dispatcher.expand catalog command.wire = .ok command.wire := by
  have kept := trim_wire isDispatched
  have noConnect := noConnect_wire isDispatched
  have fits := mt (namesTooMany_wire_iff isDispatched).mp fits
  have unranged := not_isRanged_wire isDispatched
  rw [← kept] at noConnect fits unranged
  have expanded := Dispatcher.expand_of_plain noConnect fits unranged catalog
  rwa [trimmed, kept, String.ofList_toList] at expanded

/-- A command of the panels is no order to this program. -/
theorem isLocal_wire
    {command : Command}
    (isDispatched : command.isDispatched = true) :
    LineText.isLocal command.wire = false := by
  have other :
      ∀ letters ∈ callLetters,
        (letters.1.toNat < 0x80 ∧ letters.2.toNat < 0x80) ∧
          [letters.1.toLower, letters.2.toLower] ∉ [['s', 'h'], ['h', 'i'], ['c', 'l']] := by
    decide
  rcases eq_clear_or_letters isDispatched with rfl | ⟨letters, areLetters, rest, shape⟩
  · decide +kernel
  · obtain ⟨ascii, notLocal⟩ := other letters areLetters
    exact LineText.isLocal_eq_false shape ascii notLocal

theorem isBlankText_wire
    {command : Command}
    (isDispatched : command.isDispatched = true) :
    isBlankText command.wire = false := by
  have visible : ∀ letters ∈ callLetters, Text.isBlank letters.1 = false := by decide
  rcases eq_clear_or_letters isDispatched with rfl | ⟨letters, areLetters, rest, shape⟩
  · decide
  · refine List.all_eq_false.mpr ⟨letters.1, ?_, by simp [visible letters areLetters]⟩
    rw [shape]
    exact List.mem_cons_self

/-- A command of the panels is dispatched as its own text. -/
theorem text?_wire
    {command : Command}
    (isDispatched : command.isDispatched = true)
    (fits : ¬ command.OpensTooMany)
    (catalog : Catalog) :
    (DispatcherCall.dispatch catalog command.wire).text? = some command.wire := by
  rw [DispatcherCall.text?, isBlankText_wire isDispatched, expand_wire isDispatched fits]
  rfl

end Command

namespace Session

/-- A command of the panels is forwarded as its own text, unless it names too many points. -/
theorem dispatchCommand_forwards
    (session : Session)
    {command : Command}
    (isDispatched : command.isDispatched = true)
    (fits : ¬ command.OpensTooMany) :
    (session.dispatchCommand command).Forwards session command.wire :=
  session.forwards_of_text? (Command.text?_wire isDispatched fits session.catalog)
    (Command.isLocal_wire isDispatched)

/-- A name that opens too long a range makes the command fail. -/
theorem dispatchCommand_of_opensTooMany
    (session : Session)
    {command : Command}
    (isDispatched : command.isDispatched = true)
    (tooMany : command.OpensTooMany) :
    session.dispatchCommand command = session.only (.error .rangeTooLong) := by
  refine session.dispatch_of_namesTooMany ?_
  rw [Command.trim_wire isDispatched]
  exact (Command.namesTooMany_wire_iff isDispatched).mpr tooMany

/-!
## Actions of the panels
-/

/-- What the user does in the panels of the collections and of the project. -/
inductive PanelAction where
  | addToCollection (name range : String)
  | removeFromCollection (name : String) (id : Int)
  | createCollection (name : String)
  | renameCollection (oldName newName : String)
  | newProject (given? : Option Bool)
  | save
  | saveAs (name : String) (adopt : Bool)
  | loadProject (id : String) (name? : Option String)
  deriving Repr

/-- The action has the command dispatched. -/
inductive PanelAction.Orders (session : Session) : PanelAction → Command → Prop where
  | addToCollection {name range : String} {ids : List Int}
      (accepted : PointRange.expand? range = .ok (some ids)) :
      Orders session (.addToCollection name range) (.addToCollection name ids)
  | removeFromCollection (name : String) (id : Int) :
      Orders session (.removeFromCollection name id) (.removeFromCollection name [id])
  | createCollection {name : String}
      (filled : isBlankText name = false) :
      Orders session (.createCollection name) (.addCollection (trimmed name) [])
  | renameCollection {oldName newName : String}
      (filled : isBlankText newName = false)
      (different : newName ≠ oldName) :
      Orders session (.renameCollection oldName newName) (.renameCollection oldName newName)
  | newProject {given? : Option Bool}
      (agreed : (given?.or session.answer?).getD false = true) :
      Orders session (.newProject given?) .clear
  | save {name : String}
      (named : session.projectName? = some name)
      (filled : name.isEmpty = false) :
      Orders session .save (.saveProject name)
  | saveAs {name : String}
      (filled : isBlankText name = false)
      (adopt : Bool) :
      Orders session (.saveAs name adopt) (.saveProject name)
  | loadProject (id : String) (name? : Option String) :
      Orders session (.loadProject id name?) (.loadProject id)

/-- What the panel orders is dispatched. -/
theorem PanelAction.Orders.isDispatched
    {session : Session}
    {action : PanelAction}
    {command : Command}
    (orders : action.Orders session command) :
    command.isDispatched = true := by
  cases orders with
  | _ =>
      rfl

/-- Carry out an action, and tell no more of its result than whether it failed. -/
def onPanel (session : Session) : PanelAction → Outcome (Except NumberError Unit)
  | .addToCollection name range =>
      (session.addToCollection name range).map (Except.map fun _ => ())
  | .removeFromCollection name id =>
      (session.removeFromCollection name id).map (Except.map fun _ => ())
  | .createCollection name => (session.createCollection name).map (Except.map fun _ => ())
  | .renameCollection oldName newName =>
      (session.renameCollection oldName newName).map (Except.map fun _ => ())
  | .newProject given? => (session.newProject given?).map (Except.map fun _ => ())
  | .save => session.save.map (Except.map fun _ => ())
  | .saveAs name adopt => (session.saveAs name adopt).map (Except.map fun _ => ())
  | .loadProject id name? => (session.loadProject id name?).map (Except.map fun _ => ())

/-- The outcome is that of a dispatch, but for a question and for the name of the project. -/
structure Carries
    (outcome : Outcome (Except ε Unit))
    (dispatched : Outcome (Except ε α)) :
    Prop where
  result : outcome.result = dispatched.result.map fun _ => ()
  published :
    outcome.effects.filterMap Effect.published? =
      dispatched.effects.filterMap Effect.published?
  dispatcher : outcome.session.dispatcher = dispatched.session.dispatcher

theorem Carries.of_map (outcome : Outcome (Except ε α)) :
    Carries (outcome.map (Except.map fun _ => ())) outcome :=
  ⟨rfl, rfl, rfl⟩

/-- Where the name of the project is changed after a dispatch, the rest of the outcome stays. -/
theorem Carries.onSuccess
    (outcome : Outcome (Except ε α))
    (name? : Option String) :
    Carries
      ((outcome.onSuccess fun session => { session with projectName? := name? }).map
        (Except.map fun _ => ()))
      outcome := by
  unfold Outcome.onSuccess
  split
  · exact ⟨rfl, rfl, rfl⟩
  · exact ⟨rfl, rfl, rfl⟩

/-- A question publishes nothing. -/
theorem filterMap_confirm
    (session : Session)
    (given? : Option Bool)
    (question : String) :
    (session.confirm given? question).2.filterMap Effect.published? = [] := by
  rw [confirm_snd]
  split
  · rfl
  · cases session.answer? with
    | none =>
        rfl
    | some answer =>
        rfl

/-- A new project that was agreed to clears the scene. -/
theorem carries_newProject
    {session : Session}
    {given? : Option Bool}
    (agreed : (given?.or session.answer?).getD false = true) :
    Carries (session.onPanel (.newProject given?)) (session.dispatchCommand .clear) := by
  have silent := session.filterMap_confirm given? newProjectPrompt
  have agrees := (session.confirm_fst given? newProjectPrompt).trans agreed
  have cleared := Carries.onSuccess (session.dispatchCommand .clear) none
  rw [onPanel, newProject]
  generalize session.confirm given? newProjectPrompt = answered at silent agrees ⊢
  obtain ⟨agrees?, asked⟩ := answered
  obtain rfl : agrees? = true := agrees
  constructor
  · change Except.map _ (Except.map _ (Outcome.onSuccess _ _).result) = _
    rw [Outcome.onSuccess_result]
    cases (session.dispatchCommand .clear).result with
    | error error =>
        rfl
    | ok dispatched? =>
        rfl
  · change (asked ++ _).filterMap Effect.published? = _
    rw [List.filterMap_append, silent, List.nil_append]
    exact cleared.published
  · exact cleared.dispatcher

/-- An action with a command has the outcome of its dispatch. -/
theorem carries_of_orders
    {session : Session}
    {action : PanelAction}
    {command : Command}
    (orders : action.Orders session command) :
    Carries (session.onPanel action) (session.dispatchCommand command) := by
  cases orders with
  | addToCollection accepted =>
      simp only [onPanel, addToCollection, accepted]
      exact .of_map _
  | removeFromCollection =>
      exact .of_map _
  | createCollection filled =>
      simp only [onPanel, createCollection, filled, Bool.false_eq_true, if_false]
      exact .of_map _
  | renameCollection filled different =>
      simp only [onPanel, renameCollection, filled, decide_eq_false different, Bool.or_self,
        Bool.false_eq_true, if_false]
      exact .of_map _
  | newProject agreed =>
      exact carries_newProject agreed
  | save named filled =>
      simp only [onPanel, save, named, filled, Bool.false_eq_true, if_false]
      exact .of_map _
  | saveAs filled adopt =>
      simp only [onPanel, saveAs, filled, Bool.false_eq_true, if_false]
      cases adopt with
      | false =>
          exact .of_map _
      | true =>
          exact .onSuccess _ _
  | loadProject =>
      exact .onSuccess _ _

/-- An action without a command publishes nothing, and notes nothing. -/
theorem onPanel_of_noOrder
    {session : Session}
    {action : PanelAction}
    (noOrder : ∀ command, ¬ action.Orders session command) :
    (session.onPanel action).effects.filterMap Effect.published? = [] ∧
      (session.onPanel action).session.dispatcher = session.dispatcher := by
  cases action with
  | addToCollection name range =>
      cases read : PointRange.expand? range with
      | error error =>
          simp only [onPanel, addToCollection, read]
          exact ⟨rfl, rfl⟩
      | ok ids? =>
          cases ids? with
          | none =>
              simp only [onPanel, addToCollection, read]
              exact ⟨rfl, rfl⟩
          | some ids =>
              exact absurd (.addToCollection read) (noOrder _)
  | removeFromCollection name id =>
      exact absurd (.removeFromCollection name id) (noOrder _)
  | createCollection name =>
      cases blank : isBlankText name with
      | true =>
          simp only [onPanel, createCollection, blank, if_true]
          exact ⟨rfl, rfl⟩
      | false =>
          exact absurd (.createCollection blank) (noOrder _)
  | renameCollection oldName newName =>
      by_cases nothing : (isBlankText newName || newName = oldName) = true
      · simp only [onPanel, renameCollection, nothing, if_true]
        exact ⟨rfl, rfl⟩
      · obtain ⟨filled, different⟩ := Bool.or_eq_false_iff.mp (Bool.not_eq_true _ ▸ nothing)
        exact absurd (.renameCollection filled (of_decide_eq_false different)) (noOrder _)
  | newProject given? =>
      cases agrees : (given?.or session.answer?).getD false with
      | true =>
          exact absurd (.newProject agrees) (noOrder _)
      | false =>
          have silent := session.filterMap_confirm given? newProjectPrompt
          have denied := (session.confirm_fst given? newProjectPrompt).trans agrees
          rw [onPanel, newProject]
          generalize session.confirm given? newProjectPrompt = answered at silent denied ⊢
          obtain ⟨agrees?, asked⟩ := answered
          obtain rfl : agrees? = false := denied
          exact ⟨silent, rfl⟩
  | save =>
      cases named : session.projectName? with
      | none =>
          simp only [onPanel, save, named]
          exact ⟨rfl, rfl⟩
      | some name =>
          cases empty : name.isEmpty with
          | true =>
              simp only [onPanel, save, named, empty, if_true]
              exact ⟨rfl, rfl⟩
          | false =>
              exact absurd (.save named empty) (noOrder _)
  | saveAs name adopt =>
      cases blank : isBlankText name with
      | true =>
          simp only [onPanel, saveAs, blank, if_true]
          exact ⟨rfl, rfl⟩
      | false =>
          exact absurd (.saveAs blank adopt) (noOrder _)
  | loadProject id name? =>
      exact absurd (.loadProject id name?) (noOrder _)

/--
Whatever the names are that the user gives in the panels: an action with a command publishes the text
of that command once and notes it in the history, and the text is no order to this program.  Only the
name of a collection that begins a list with too long a range keeps it from that.  An
action without a command publishes nothing, and notes nothing.
-/
theorem onPanel_forwards
    (session : Session)
    (action : PanelAction) :
    (∀ command, action.Orders session command →
      FailsIf (session.onPanel action).result .rangeTooLong command.OpensTooMany ∧
      (¬ command.OpensTooMany →
        LineText.isLocal command.wire = false ∧
        (session.onPanel action).effects.filterMap Effect.published? = [command.wire] ∧
        (session.onPanel action).session.dispatcher.history.entries =
          session.dispatcher.history.entries ++ [command.wire] ∧
        (session.onPanel action).session.dispatcher.labelMode = session.dispatcher.labelMode) ∧
      (command.OpensTooMany →
        (session.onPanel action).effects.filterMap Effect.published? = [] ∧
        (session.onPanel action).session.dispatcher = session.dispatcher)) ∧
    ((∀ command, ¬ action.Orders session command) →
      (session.onPanel action).effects.filterMap Effect.published? = [] ∧
      (session.onPanel action).session.dispatcher = session.dispatcher) := by
  refine ⟨fun command orders => ?_, onPanel_of_noOrder⟩
  have isDispatched := orders.isDispatched
  have carries := carries_of_orders orders
  rw [carries.result, carries.published, carries.dispatcher]
  refine ⟨?_, fun fits => ?_, fun tooMany => ?_⟩
  · refine ((session.dispatch_failsIf command.wire).map fun _ => ()).of_iff ?_
    rw [Command.trim_wire isDispatched]
    exact Command.namesTooMany_wire_iff isDispatched
  · have forwards := session.dispatchCommand_forwards isDispatched fits
    rw [forwards.effects]
    exact ⟨Command.isLocal_wire isDispatched, rfl, forwards.entries, forwards.labelMode⟩
  · rw [session.dispatchCommand_of_opensTooMany isDispatched tooMany]
    exact ⟨rfl, rfl⟩

example :
    (({} : Session).onPanel (.createCollection "Clear(), [p1..p3 \n")).effects =
      [.published "AddCollection(Clear(), [p1..p3, [])"] := by
  decide

/-- The name of a collection that begins a list can keep the collection from being created. -/
theorem onPanel_withholds_opened :
    let action : PanelAction := .createCollection "a, [p1..p99999999999999999999"
    let command : Command := .addCollection "a, [p1..p99999999999999999999" []
    action.Orders {} command ∧
      (({} : Session).onPanel action).result = .error .rangeTooLong ∧
      (({} : Session).onPanel action).effects = [] ∧
      (({} : Session).onPanel action).session.dispatcher.history.entries = [] := by
  refine ⟨.createCollection (by decide), ?_, by decide, by decide⟩
  decide

end Session

end SceneEditor
