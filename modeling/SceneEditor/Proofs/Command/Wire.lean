import SceneEditor.Proofs.Number.Characters
import SceneEditor.Proofs.Session.Destructive

namespace SceneEditor

/-!
# What a command's text tells

The text of a command tells its class by what stands in front of the parenthesis, and its fields by
what stands between the commas.  A list of points has commas itself, and the name of a clip is left
out if it is empty.  But no class has more than one such field, and each of its other fields is one
piece between commas, so that one is what remains between the others.
-/

/-- A field of a command, as far as its text tells it. -/
inductive Field where
  | text (value : String)
  /-- A number, by the text that it is written with. -/
  | number (written : String) (isNumber : IsNumberText written.toList)
  | point (id : Int)
  | points (ids : List Int)
  /-- A text in quotes that is left out if it is empty. -/
  | optional (value : String)
  deriving DecidableEq, Repr

namespace Field

/-- What a field of a command holds. -/
inductive Kind where
  | text
  | number
  | point
  | points
  | optional
  deriving DecidableEq, Repr

/-- A field of the kind may be no piece between commas, or more than one. -/
def Kind.varies : Kind → Bool
  | points | optional => true
  | text | number | point => false

/-- What the value of a field is. -/
def kind : Field → Kind
  | .text _ => .text
  | .number _ _ => .number
  | .point _ => .point
  | .points _ => .points
  | .optional _ => .optional

/-- A number as the text that it is sent as. -/
def num (value : Num) : Field :=
  .number value.wireText value.isNumberText_wireText

/-- A time of a clip that is updated. -/
def time (value : Binary64) : Field :=
  .number (Command.clipTime value) (value.isNumberText_fixedText 2)

/-- The field is a text with a comma. -/
def hasComma : Field → Bool
  | .text value | .optional value => value.toList.contains ','
  | .number _ _ | .point _ | .points _ => false

/-- The arguments that the field is in a call. -/
def arguments : Field → List String
  | .text value => [value]
  | .number written _ => [written]
  | .point id => [pointRef id]
  | .points ids => [pointList ids]
  | .optional value => Command.clipNameArgument (some value)

end Field

namespace Command

/-- The command is of a class that says what it asks for. -/
def isTyped : Command → Bool
  | raw _ | unnamed => false
  | _ => true

/-- The fields of a command in their order. -/
def fields : Command → List Field
  | raw text => [.text text]
  | unnamed | play | pause | stop | undo | redo | clear => []
  | addPoint x y z color => [.num x, .num y, .num z, .text color]
  | connect source target color thickness =>
      [.text source, .text target, .text color, .num thickness]
  | addFace pointIds color => [.points pointIds, .text color]
  | recolor pointId color => [.point pointId, .text color]
  | move pointId x y z => [.point pointId, .num x, .num y, .num z]
  | delete target => [.text target]
  | addCollection name pointIds
  | addToCollection name pointIds
  | removeFromCollection name pointIds => [.text name, .points pointIds]
  | renameCollection oldName newName => [.text oldName, .text newName]
  | addClip target kind startTime endTime axis value name? =>
      [.text target, .text kind, .num startTime, .num endTime, .text axis, .num value,
        .optional (name?.getD "")]
  | updateClip id name startTime endTime =>
      [.text id, .text name, .time startTime, .time endTime]
  | deleteClip name | saveProject name => [.text name]
  | deleteClipById id | loadProject id => [.text id]
  | seek time => [.num time]

/-- Some text of the command has a comma. -/
def hasComma (command : Command) : Bool :=
  command.fields.any Field.hasComma

end Command

/-!
## Cutting at commas
-/

/-- What is between the commas of an argument, behind the space in front of it. -/
def argumentPieces (argument : String) : List (List Char) :=
  Text.pieces ',' (' ' :: argument.toList)

/-- The pieces between the commas of an argument tell the argument. -/
theorem argumentPieces_injective : Function.Injective argumentPieces := by
  intro first second same
  have spaced := Text.pieces_injective ',' same
  exact String.toList_inj.mp (List.cons.inj spaced).2

theorem argumentPieces_ne_nil (argument : String) : argumentPieces argument ≠ [] :=
  Text.pieces_ne_nil _ _

/-- An argument without a comma is one piece. -/
theorem length_argumentPieces
    {argument : String}
    (whole : ',' ∉ argument.toList) :
    (argumentPieces argument).length = 1 := by
  have spaced : ',' ∉ ' ' :: argument.toList :=
    List.not_mem_cons_of_ne_of_not_mem (by decide) whole
  rw [argumentPieces, Text.pieces_of_notMem spaced]
  rfl

/-- The pieces of a listing are the pieces of its arguments. -/
theorem argumentPieces_commaList
    {arguments : List String}
    (filled : arguments ≠ []) :
    argumentPieces (commaList arguments) = arguments.flatMap argumentPieces := by
  induction arguments with
  | nil =>
      exact (filled rfl).elim
  | cons first others inductionHypothesis =>
      cases others with
      | nil =>
          simp [commaList]
      | cons next others =>
          have shape :
              ' ' :: (commaList (first :: next :: others)).toList =
                (' ' :: first.toList) ++ ',' :: ' ' :: (commaList (next :: others)).toList := by
            simp [commaList]
          have rest := inductionHypothesis (List.cons_ne_nil _ _)
          rw [argumentPieces, shape, Text.pieces_append, List.flatMap_cons, ← rest]
          rfl

/-- Arguments without commas are told apart in a listing. -/
theorem commaList_inj
    {arguments others : List String}
    (filled : arguments ≠ [])
    (othersFilled : others ≠ [])
    (plain : ∀ argument ∈ arguments, ',' ∉ argument.toList)
    (othersPlain : ∀ argument ∈ others, ',' ∉ argument.toList)
    (same : commaList arguments = commaList others) :
    arguments = others := by
  obtain ⟨first, rest, rfl⟩ := List.exists_cons_of_ne_nil filled
  obtain ⟨other, otherRest, rfl⟩ := List.exists_cons_of_ne_nil othersFilled
  have cut := pieces_commaList plain
  rw [same, pieces_commaList othersPlain] at cut
  obtain ⟨sameFirst, sameRest⟩ := List.cons.inj cut
  have spaced : Function.Injective fun text : String => ' ' :: text.toList :=
    fun _ _ same => String.toList_inj.mp (List.cons.inj same).2
  rw [String.toList_inj.mp sameFirst, List.map_injective_iff.mpr spaced sameRest]

/-!
## Points
-/

/-- The name of a point holds no comma. -/
theorem comma_notMem_pointRef (id : Int) : ',' ∉ (pointRef id).toList :=
  fun member => absurd (mem_pointCharacters_of_mem_pointRef member) (by decide)

/-- The name of a point tells its id. -/
theorem pointRef_injective : Function.Injective pointRef := by
  intro first second same
  exact toString_int_injective (String.append_right_inj "p" |>.mp same)

theorem commaList_pointRef_ne_empty
    (id : Int)
    (others : List Int) :
    commaList ((id :: others).map pointRef) ≠ "" := by
  obtain ⟨tail, shape⟩ := commaList_cons (pointRef id) (others.map pointRef)
  intro empty
  rw [← List.map_cons, empty, toList_pointRef] at shape
  exact List.cons_ne_nil _ _ shape.symm

/-- A list of points in brackets tells the points. -/
theorem pointList_injective : Function.Injective pointList := by
  intro first second same
  have listed : commaList (first.map pointRef) = commaList (second.map pointRef) := by
    simpa [pointList, String.append_left_inj, String.append_right_inj] using same
  cases first with
  | nil =>
      cases second with
      | nil =>
          rfl
      | cons id others =>
          exact absurd listed.symm (commaList_pointRef_ne_empty id others)
  | cons id others =>
      cases second with
      | nil =>
          exact absurd listed (commaList_pointRef_ne_empty id others)
      | cons other otherIds =>
          have plain (ids : List Int) : ∀ argument ∈ ids.map pointRef, ',' ∉ argument.toList :=
            List.forall_mem_map.mpr fun id _ => comma_notMem_pointRef id
          exact List.map_injective_iff.mpr pointRef_injective
            (commaList_inj (by simp) (by simp) (plain _) (plain _) listed)

/-!
## Fields
-/

namespace Field

/-- The pieces of a field among those of its command. -/
def pieces (field : Field) : List (List Char) :=
  field.arguments.flatMap argumentPieces

/-- The arguments of a field of a known kind tell its value. -/
theorem arguments_inj
    {first second : Field}
    (sameKind : first.kind = second.kind)
    (same : first.arguments = second.arguments) :
    first = second := by
  match first, second, sameKind with
  | .text _, .text _, _ =>
      rw [List.singleton_inj.mp same]
  | .number _ _, .number _ _, _ =>
      cases List.singleton_inj.mp same
      rfl
  | .point _, .point _, _ =>
      rw [pointRef_injective (List.singleton_inj.mp same)]
  | .points _, .points _, _ =>
      rw [pointList_injective (List.singleton_inj.mp same)]
  | .optional value, .optional other, _ =>
      by_cases empty : value = ""
      · by_cases otherEmpty : other = ""
        · rw [empty, otherEmpty]
        · simp [arguments, Command.clipNameArgument, empty, otherEmpty] at same
      · by_cases otherEmpty : other = ""
        · simp [arguments, Command.clipNameArgument, empty, otherEmpty] at same
        · simpa [arguments, Command.clipNameArgument, empty, otherEmpty] using same

/-- A field is at most one argument. -/
theorem arguments_eq (field : Field) :
    field.arguments = [] ∨ ∃ argument, field.arguments = [argument] := by
  cases field with
  | optional value =>
      rw [arguments, Command.clipNameArgument]
      split
      · exact Or.inl rfl
      · exact Or.inr ⟨_, rfl⟩
  | _ =>
      exact Or.inr ⟨_, rfl⟩

/-- Only an optional field may have no argument. -/
theorem arguments_ne_nil
    {field : Field}
    (given : field.kind ≠ .optional) :
    field.arguments ≠ [] := by
  cases field with
  | optional value =>
      exact absurd rfl given
  | _ =>
      exact List.cons_ne_nil _ _

/-- The pieces of a field of a known kind tell its value. -/
theorem pieces_inj
    {first second : Field}
    (sameKind : first.kind = second.kind)
    (same : first.pieces = second.pieces) :
    first = second := by
  apply arguments_inj sameKind
  rw [pieces, pieces] at same
  rcases first.arguments_eq with none | ⟨argument, one⟩
  · rcases second.arguments_eq with otherNone | ⟨other, otherOne⟩
    · rw [none, otherNone]
    · rw [none, otherOne, List.flatMap_singleton] at same
      exact absurd same.symm (argumentPieces_ne_nil other)
  · rcases second.arguments_eq with otherNone | ⟨other, otherOne⟩
    · rw [one, otherNone, List.flatMap_singleton] at same
      exact absurd same (argumentPieces_ne_nil argument)
    · rw [one, otherOne, List.flatMap_singleton, List.flatMap_singleton] at same
      rw [one, otherOne, argumentPieces_injective same]

/-- A field that does not vary is one piece, unless its text has a comma. -/
theorem length_pieces
    {field : Field}
    (plain : field.hasComma = false)
    (steady : field.kind.varies = false) :
    field.pieces.length = 1 := by
  have single {argument : String} (whole : ',' ∉ argument.toList) :
      ([argument].flatMap argumentPieces).length = 1 := by
    rw [List.flatMap_singleton]
    exact length_argumentPieces whole
  cases field with
  | text value =>
      exact single (by simpa [hasComma] using plain)
  | number written isNumber =>
      exact single (isNumber.notMem (by decide))
  | point id =>
      exact single (comma_notMem_pointRef id)
  | points _ | optional _ =>
      exact Bool.noConfusion steady

/-- Plain fields, of which none may vary in length, are one piece each. -/
theorem length_flatMap_pieces
    {fields : List Field}
    (plain : fields.any hasComma = false)
    (steady : (fields.map kind).countP Kind.varies = 0) :
    (fields.flatMap pieces).length = fields.length := by
  induction fields with
  | nil =>
      rfl
  | cons field others inductionHypothesis =>
      rw [List.any_cons, Bool.or_eq_false_iff] at plain
      rw [List.map_cons, List.countP_cons, Nat.add_eq_zero_iff] at steady
      have fieldSteady : field.kind.varies = false := by
        simpa using steady.2
      rw [List.flatMap_cons, List.length_append, length_pieces plain.1 fieldSteady,
        inductionHypothesis plain.2 steady.1, List.length_cons, Nat.add_comm]

/--
Fields of the same kinds are found among the pieces that they were written in.  Up to the one that
varies they are found from the front, and from there on from the end.
-/
theorem flatMap_pieces_inj
    {first second : List Field}
    (plain : first.any hasComma = false)
    (secondPlain : second.any hasComma = false)
    (sameKinds : first.map kind = second.map kind)
    (readable : (first.map kind).countP Kind.varies ≤ 1)
    (same : first.flatMap pieces = second.flatMap pieces) :
    first = second := by
  induction first generalizing second with
  | nil =>
      exact (List.map_eq_nil_iff.mp sameKinds.symm).symm
  | cons field rest inductionHypothesis =>
      cases second with
      | nil =>
          exact absurd sameKinds (by simp)
      | cons other others =>
          obtain ⟨sameKind, sameRest⟩ := List.cons.inj sameKinds
          rw [List.any_cons, Bool.or_eq_false_iff] at plain secondPlain
          rw [List.map_cons, List.countP_cons] at readable
          rw [List.flatMap_cons, List.flatMap_cons] at same
          have cut :
              field.pieces = other.pieces ∧ rest.flatMap pieces = others.flatMap pieces := by
            by_cases varies : field.kind.varies = true
            · rw [if_pos varies] at readable
              have steady : (rest.map kind).countP Kind.varies = 0 :=
                Nat.le_zero.mp (Nat.le_of_succ_le_succ readable)
              have lengths : (rest.flatMap pieces).length = (others.flatMap pieces).length := by
                rw [length_flatMap_pieces plain.2 steady,
                  length_flatMap_pieces secondPlain.2 (sameRest ▸ steady)]
                simpa using congrArg List.length sameRest
              exact List.append_inj' same lengths
            · have steady : field.kind.varies = false := by
                simpa using varies
              have lengths : field.pieces.length = other.pieces.length := by
                rw [length_pieces plain.1 steady, length_pieces secondPlain.1 (sameKind ▸ steady)]
              exact List.append_inj same lengths
          rw [pieces_inj sameKind cut.1,
            inductionHypothesis plain.2 secondPlain.2 sameRest
              (Nat.le_trans (Nat.le_add_right _ _) readable) cut.2]

end Field

/-!
## Classes
-/

namespace Command

/-- The names of the typed classes and the kinds of their fields, in the order of the classes. -/
def classes : List (String × List Field.Kind) :=
  [("AddPoint", [.number, .number, .number, .text]),
    ("Connect", [.text, .text, .text, .number]),
    ("AddFace", [.points, .text]),
    ("Color", [.point, .text]),
    ("Move", [.point, .number, .number, .number]),
    ("Delete", [.text]),
    ("AddCollection", [.text, .points]),
    ("AddToCollection", [.text, .points]),
    ("RemoveFromCollection", [.text, .points]),
    ("RenameCollection", [.text, .text]),
    ("AddClip", [.text, .text, .number, .number, .text, .number, .optional]),
    ("UpdateClip", [.text, .text, .number, .number]),
    ("DeleteClip", [.text]),
    ("DeleteClipById", [.text]),
    ("Play", []),
    ("Pause", []),
    ("Stop", []),
    ("Seek", [.number]),
    ("Undo", []),
    ("Redo", []),
    ("Clear", []),
    ("SaveProject", [.text]),
    ("LoadProject", [.text])]

/-- At most one field of these kinds varies, and the first one is always given. -/
def areReadable (kinds : List Field.Kind) : Bool :=
  kinds.countP Field.Kind.varies ≤ 1 && kinds.head? != some .optional

/-- The fields of each class of commands can be told apart again. -/
theorem classes_areReadable :
    ∀ entry ∈ classes, areReadable entry.2 = true := by
  decide

/-- No two classes of commands share a head. -/
theorem classes_nodup : (classes.map Prod.fst).Nodup := by
  decide

section

variable {first second : Command}

/-- The classes stand in the table behind the two that are not typed. -/
theorem exists_class (typed : first.isTyped = true) :
    ∃ place,
      first.ctorIdx = place + 2 ∧
        classes[place]? = some (first.shape.name, first.fields.map Field.kind) := by
  cases first with
  | raw _ | unnamed =>
      exact Bool.noConfusion typed
  | _ =>
      exact ⟨_, rfl, rfl⟩

/-- A class has one name, and its commands have the same kinds of fields. -/
theorem entry_eq_of_ctorIdx_eq
    (typed : first.isTyped = true)
    (secondTyped : second.isTyped = true)
    (same : first.ctorIdx = second.ctorIdx) :
    first.shape.name = second.shape.name ∧
      first.fields.map Field.kind = second.fields.map Field.kind := by
  obtain ⟨place, isPlace, found⟩ := exists_class typed
  obtain ⟨other, isOther, otherFound⟩ := exists_class secondTyped
  have samePlace : place = other := by
    omega
  rw [samePlace, otherFound] at found
  exact Prod.mk.inj (Option.some.inj found.symm)

/-- The class of a typed command is known by its name. -/
theorem ctorIdx_eq_of_name_eq
    (typed : first.isTyped = true)
    (secondTyped : second.isTyped = true)
    (same : first.shape.name = second.shape.name) :
    first.ctorIdx = second.ctorIdx := by
  have name {command : Command} (typed : command.isTyped = true) :
      ∃ place,
        command.ctorIdx = place + 2 ∧ (classes.map Prod.fst)[place]? = some command.shape.name := by
    obtain ⟨place, isPlace, found⟩ := exists_class typed
    exact ⟨place, isPlace, by rw [List.getElem?_map, found]; rfl⟩
  obtain ⟨place, isPlace, found⟩ := name typed
  obtain ⟨other, isOther, otherFound⟩ := name secondTyped
  obtain ⟨inTable, -⟩ := List.getElem?_eq_some_iff.mp found
  have sameEntry : (classes.map Prod.fst)[place]? = (classes.map Prod.fst)[other]? := by
    rw [found, otherFound, same]
  rw [isPlace, isOther, (List.getElem?_inj inTable classes_nodup).mp sameEntry]

/-- The fields of a typed command can be told apart again. -/
theorem areReadable_kinds (typed : first.isTyped = true) :
    areReadable (first.fields.map Field.kind) = true := by
  obtain ⟨place, -, found⟩ := exists_class typed
  exact classes_areReadable _ (List.mem_of_getElem? found)

/-- A typed command is written with its name and, if it has fields, with what they are in a call. -/
theorem wire_eq (typed : first.isTyped = true) :
    first.wire =
      (if first.fields = [] then Shape.word first.shape.name
        else .call first.shape.name (first.fields.flatMap Field.arguments)).text := by
  cases first with
  | raw _ | unnamed =>
      exact Bool.noConfusion typed
  | addClip target kind startTime endTime axis value name? =>
      cases name? with
      | none =>
          rfl
      | some name =>
          simp [wire, shape, Shape.name, fields, Field.num, Field.arguments]
  | _ =>
      rfl

theorem arguments_ne_nil
    (typed : first.isTyped = true)
    (filled : first.fields ≠ []) :
    first.fields.flatMap Field.arguments ≠ [] := by
  obtain ⟨field, others, shape⟩ := List.exists_cons_of_ne_nil filled
  have readable := areReadable_kinds typed
  rw [shape, areReadable] at readable
  have given : field.kind ≠ .optional := by
    simpa using (Bool.and_eq_true_iff.mp readable).2
  rw [shape, List.flatMap_cons]
  exact List.append_ne_nil_of_left_ne_nil (Field.arguments_ne_nil given) _

/-- The fields of two calls of one class are read off what stands in the parentheses. -/
theorem fields_eq_of_listed
    (typed : first.isTyped = true)
    (secondTyped : second.isTyped = true)
    (plain : first.hasComma = false)
    (secondPlain : second.hasComma = false)
    (sameClass : first.ctorIdx = second.ctorIdx)
    (filled : first.fields ≠ [])
    (secondFilled : second.fields ≠ [])
    (listed :
      commaList (first.fields.flatMap Field.arguments) =
        commaList (second.fields.flatMap Field.arguments)) :
    first.fields = second.fields := by
  obtain ⟨-, sameKinds⟩ := entry_eq_of_ctorIdx_eq typed secondTyped sameClass
  have readable := (Bool.and_eq_true_iff.mp (areReadable_kinds typed)).1
  have cut := congrArg argumentPieces listed
  rw [argumentPieces_commaList (arguments_ne_nil typed filled),
    argumentPieces_commaList (arguments_ne_nil secondTyped secondFilled),
    List.flatMap_assoc, List.flatMap_assoc] at cut
  exact Field.flatMap_pieces_inj plain secondPlain sameKinds (of_decide_eq_true readable) cut

end

/-- The text of a typed command tells its class and its fields, if their texts have no commas. -/
theorem wire_eq_iff_fields
    {first second : Command}
    (firstTyped : first.isTyped = true)
    (secondTyped : second.isTyped = true)
    (firstPlain : first.hasComma = false)
    (secondPlain : second.hasComma = false) :
    first.wire = second.wire ↔
      first.ctorIdx = second.ctorIdx ∧ first.fields = second.fields := by
  constructor
  · intro same
    have sameName : first.shape.name = second.shape.name := by
      rw [← commandName_wire, same, commandName_wire]
    have sameClass := ctorIdx_eq_of_name_eq firstTyped secondTyped sameName
    obtain ⟨-, sameKinds⟩ := entry_eq_of_ctorIdx_eq firstTyped secondTyped sameClass
    refine ⟨sameClass, ?_⟩
    by_cases filled : first.fields = []
    · rw [filled] at sameKinds ⊢
      exact (List.map_eq_nil_iff.mp sameKinds.symm).symm
    · have secondFilled : second.fields ≠ [] := by
        intro empty
        rw [empty] at sameKinds
        exact filled (List.map_eq_nil_iff.mp sameKinds)
      rw [wire_eq firstTyped, wire_eq secondTyped, if_neg filled, if_neg secondFilled, sameName]
        at same
      have listed :
          commaList (first.fields.flatMap Field.arguments) =
            commaList (second.fields.flatMap Field.arguments) := by
        simpa [Shape.text, String.append_assoc] using same
      exact fields_eq_of_listed firstTyped secondTyped firstPlain secondPlain sameClass filled
        secondFilled listed
  · rintro ⟨sameClass, sameFields⟩
    obtain ⟨sameName, -⟩ := entry_eq_of_ctorIdx_eq firstTyped secondTyped sameClass
    rw [wire_eq firstTyped, wire_eq secondTyped, sameName, sameFields]

/-- A clip without a name is written as one with the empty name, and its times as whole numbers. -/
theorem wire_eq_iff_fields_clips :
    (addClip "p0" "Move" (.int 0) (.int 5) "y" (.int 2) none).wire =
        (addClip "p0" "Move" (.real 0) (.int 5) "y" (.int 2) (some "")).wire ∧
      (deleteClip "7").wire ≠ (deleteClipById "7").wire := by
  constructor
  · exact (wire_eq_iff_fields rfl rfl (by decide) (by decide)).mpr ⟨rfl, by decide +kernel⟩
  · intro same
    have sameClass := ((wire_eq_iff_fields rfl rfl (by decide) (by decide)).mp same).1
    exact absurd sameClass (by decide)

end Command

end SceneEditor
