import SceneEditor.Proofs.Json.Typed
import SceneEditor.Proofs.Material.Catalog
import SceneEditor.Session.Materials
import SceneEditor.Session.Points

namespace SceneEditor

open Attempt

/-!
# Numbers that a user types

A thickness, a price and the coordinates of a point are typed as values of any kind.  A value that is
no acceptable number is left out: a thickness keeps its old value, a price becomes nothing, and a row
of coordinates is taken as a whole or not at all.

The values are not always read to the end.  An integer that cannot be converted is a failure in all
three places, and so is, for a thickness and for a row, a value that is left out and cannot be shown.
Even then nothing is changed and nothing is published.
-/

namespace Catalog

/-- The catalog with another thickness for the first material of an identifier. -/
def withThickness (catalog : Catalog) (id : String) (number : Binary64) : Catalog :=
  catalog.modify id fun material => { material with thickness := .real number }

/-- The catalog with another price for the first material of an identifier. -/
def withPrice (catalog : Catalog) (id : String) (price : Binary64) : Catalog :=
  catalog.modify id fun material => { material with price }

/-- What becomes of a value that is typed for the thickness of a material. -/
structure TakesThickness (catalog : Catalog) (id : String) (value : Json) : Prop where
  unknown : catalog.get? id = none → catalog.update id "thickness" value = .ok (catalog, false)
  fails_iff :
    ∀ error, catalog.update id "thickness" value = .error error ↔
      (catalog.get? id).isSome ∧ ∃ number, Json.Fails [value] number ∧ error = .number number
  taken :
    ∀ number, (catalog.get? id).isSome → value.ConvertsTo number → Binary64.lt 0 number = true →
      catalog.update id "thickness" value = .ok (catalog.withThickness id number, true)
  discarded :
    (∀ error, ¬ Json.Fails [value] error) →
      (∀ number, value.ConvertsTo number → Binary64.lt 0 number = false) →
        catalog.update id "thickness" value = .ok (catalog, false)

/-- What becomes of a value that is typed for the price of a material. -/
structure TakesPrice (catalog : Catalog) (id : String) (value : Json) : Prop where
  unknown : catalog.get? id = none → catalog.update id "price" value = .ok (catalog, false)
  fails_iff :
    ∀ error, catalog.update id "price" value = .error error ↔
      (catalog.get? id).isSome ∧ value.IsTooLarge ∧ error = .number .integerTooLarge
  taken :
    ∀ number, (catalog.get? id).isSome → value.ConvertsTo number →
      catalog.update id "price" value = .ok (catalog.withPrice id number, true)
  discarded :
    (catalog.get? id).isSome → ¬ value.IsTooLarge → (∀ number, ¬ value.ConvertsTo number) →
      catalog.update id "price" value = .ok (catalog.withPrice id 0, true)

end Catalog

namespace Session

/-- The three values convert to the coordinates of a position, which are finite. -/
structure IsRow (x y z : Json) (position : Position) : Prop where
  x : x.ConvertsTo position.x ∧ position.x.isFinite = true
  y : y.ConvertsTo position.y ∧ position.y.isFinite = true
  z : z.ConvertsTo position.z ∧ position.z.isFinite = true

/-- The coordinates of the position are those of the point. -/
def isPlaceOf (point : Point) (position : Position) : Bool :=
  position.x.equals point.x && position.y.equals point.y && position.z.equals point.z

/-- The command that moves a point. -/
def moveCommand (id : Int) (position : Position) : Command :=
  .move id (.real position.x) (.real position.y) (.real position.z)

/-- What becomes of three values that are typed for the coordinates of a point. -/
structure TakesRow (session : Session) (id : Int) (x y z : Json) : Prop where
  kept : (session.editPoint id x y z).session = session
  fails_iff :
    ∀ error, (session.editPoint id x y z).result = .error error ↔
      (session.world.point? id).isSome ∧ Json.Fails [x, y, z] error
  moved :
    ∀ point position,
      session.world.point? id = some point → IsRow x y z position →
        isPlaceOf point position = false →
          (session.editPoint id x y z).result = .ok (some (moveCommand id position)) ∧
            (session.editPoint id x y z).effects = [.published (moveCommand id position).wire]
  discarded :
    (∀ point position,
      session.world.point? id = some point → IsRow x y z position →
        isPlaceOf point position = true) →
      (∀ command, (session.editPoint id x y z).result ≠ .ok (some command)) ∧
        (session.editPoint id x y z).effects = []

end Session

/-!
## Thickness and price
-/

namespace Catalog

/-- A thickness fails exactly where reading the value does. -/
theorem change?_thickness_eq_error_iff
    {value : Json}
    {error : NumberError} :
    change? .thickness value = .error error ↔ Json.Fails [value] error := by
  by_cases large : ∃ other ∈ [value], other.IsTooLarge
  · have tooLarge : value.IsTooLarge := by
      simpa using large
    rw [change?, value.typed?_failsIf.fails tooLarge, Json.fails_iff_of_large large]
    exact ⟨fun same => (Except.error.inj same).symm, fun same => same ▸ rfl⟩
  · have small : ¬ value.IsTooLarge := by
      simpa using large
    obtain ⟨typed?, read⟩ := value.typed?_failsIf.succeeds small
    rw [change?, read, ok_bind, Json.fails_iff_of_small large]
    simp only [List.mem_singleton, exists_eq_left]
    cases typed? with
    | none =>
        exact value.discarded_failsIf error
    | some number =>
        have writable := (Json.typed?_eq_some_iff.mp read).isWritable
        dsimp only
        split
        · simp [writable, pure, Except.pure]
        · exact value.discarded_failsIf error

/-- A value that converts to a positive number is taken as the thickness. -/
theorem change?_thickness_eq_some
    {value : Json}
    {number : Binary64}
    (converts : value.ConvertsTo number)
    (positive : Binary64.lt 0 number = true) :
    change? .thickness value =
      .ok (some fun material => { material with thickness := .real number }) := by
  rw [change?, Json.typed?_eq_some_iff.mpr converts, ok_bind]
  dsimp only
  rw [if_pos positive]
  rfl

/-- A thickness that can be shown and is no positive number is left out. -/
theorem change?_thickness_eq_none
    {value : Json}
    (readable : ∀ error, ¬ Json.Fails [value] error)
    (noThickness : ∀ number, value.ConvertsTo number → Binary64.lt 0 number = false) :
    change? .thickness value = .ok none := by
  cases edit : change? .thickness value with
  | error error =>
      exact absurd (change?_thickness_eq_error_iff.mp edit) (readable error)
  | ok change? =>
      obtain ⟨typed?, read, result⟩ := bind_eq_ok_iff.mp edit
      cases typed? with
      | none =>
          rw [Json.eq_none_of_discarded result]
      | some number =>
          have notPositive := noThickness number (Json.typed?_eq_some_iff.mp read)
          dsimp only at result
          rw [if_neg (Bool.eq_false_iff.mp notPositive)] at result
          rw [Json.eq_none_of_discarded result]

/-- A price fails exactly if it is too large an integer. -/
theorem change?_price_failsIf (value : Json) :
    FailsIf (change? .price value) .integerTooLarge value.IsTooLarge :=
  value.typed?_failsIf.bind_ok fun _ => ⟨_, rfl⟩

/-- A value that converts to a number is taken as the price. -/
theorem change?_price_eq_some
    {value : Json}
    {number : Binary64}
    (converts : value.ConvertsTo number) :
    change? .price value = .ok (some fun material => { material with price := number }) := by
  rw [change?, Json.typed?_eq_some_iff.mpr converts]
  rfl

/-- A value that converts to no number is taken as the price zero. -/
theorem change?_price_eq_zero
    {value : Json}
    (small : ¬ value.IsTooLarge)
    (noNumber : ∀ number, ¬ value.ConvertsTo number) :
    change? .price value = .ok (some fun material => { material with price := 0 }) := by
  obtain ⟨typed?, read⟩ := value.typed?_failsIf.succeeds small
  cases typed? with
  | none =>
      rw [change?, read]
      rfl
  | some number =>
      exact absurd (Json.typed?_eq_some_iff.mp read) (noNumber number)

/-- A material that is not there is not edited. -/
theorem update_of_unknown
    {catalog : Catalog}
    {id fieldName : String}
    {field : MaterialField}
    (named : MaterialField.ofName? fieldName = some field)
    (unknown : catalog.get? id = none)
    (value : Json) :
    catalog.update id fieldName value = .ok (catalog, false) := by
  rw [update, named]
  simp [unknown]

/-- A material that is there is edited as the change says. -/
theorem update_of_known
    {catalog : Catalog}
    {id fieldName : String}
    {field : MaterialField}
    (named : MaterialField.ofName? fieldName = some field)
    (known : (catalog.get? id).isSome)
    (value : Json) :
    catalog.update id fieldName value =
      match change? field value with
      | .error error => .error (.number error)
      | .ok none => .ok (catalog, false)
      | .ok (some change) => .ok (catalog.modify id change, true) := by
  have isThere := Option.isNone_eq_false_iff.mpr known
  cases result : change? field value with
  | error error =>
      simp [update, named, isThere, result]
  | ok change? =>
      cases change? <;> simp [update, named, isThere, result]

/-- An edit fails exactly if the material is there and its change fails. -/
theorem update_eq_error_iff
    {catalog : Catalog}
    {id fieldName : String}
    {field : MaterialField}
    (named : MaterialField.ofName? fieldName = some field)
    {value : Json}
    {error : EditError} :
    catalog.update id fieldName value = .error error ↔
      (catalog.get? id).isSome ∧
        ∃ number, change? field value = .error number ∧ error = .number number := by
  cases found : catalog.get? id with
  | none =>
      simp [update_of_unknown named found]
  | some material =>
      have known : (catalog.get? id).isSome := by
        rw [found]
        rfl
      rw [update_of_known named known]
      cases change? field value with
      | error number =>
          simp [eq_comm]
      | ok change? =>
          cases change? with
          | none =>
              simp
          | some change =>
              simp

/-- What comes of a value for a thickness. -/
theorem takesThickness
    (catalog : Catalog)
    (id : String)
    (value : Json) :
    catalog.TakesThickness id value where
  unknown unknown := update_of_unknown rfl unknown value
  fails_iff error := by
    have named : MaterialField.ofName? "thickness" = some .thickness := rfl
    rw [update_eq_error_iff named]
    simp only [change?_thickness_eq_error_iff]
  taken number known converts positive := by
    rw [update_of_known rfl known, change?_thickness_eq_some converts positive]
    rfl
  discarded readable noThickness := by
    cases found : catalog.get? id with
    | none =>
        exact update_of_unknown rfl found value
    | some material =>
        have known : (catalog.get? id).isSome := by
          rw [found]
          rfl
        rw [update_of_known rfl known, change?_thickness_eq_none readable noThickness]

theorem takesPrice
    (catalog : Catalog)
    (id : String)
    (value : Json) :
    catalog.TakesPrice id value where
  unknown unknown := update_of_unknown rfl unknown value
  fails_iff error := by
    have named : MaterialField.ofName? "price" = some .price := rfl
    rw [update_eq_error_iff named]
    simp only [change?_price_failsIf value _]
    simp
  taken number known converts := by
    rw [update_of_known rfl known, change?_price_eq_some converts]
    rfl
  discarded known small noNumber := by
    rw [update_of_known rfl known, change?_price_eq_zero small noNumber]
    rfl

end Catalog

/-!
## Coordinates
-/

namespace Session

/-- A coordinate fails exactly if it is too large an integer. -/
theorem coordinate?_failsIf (value : Json) :
    FailsIf (coordinate? value) .integerTooLarge value.IsTooLarge :=
  value.typed?_failsIf.bind_ok fun _ => ⟨_, rfl⟩

/-- A coordinate is taken if it converts to a finite number. -/
theorem coordinate?_eq_some_iff
    {value : Json}
    {number : Binary64} :
    coordinate? value = .ok (some number) ↔
      value.ConvertsTo number ∧ number.isFinite = true := by
  rw [coordinate?, bind_eq_ok_iff]
  constructor
  · rintro ⟨typed?, read, kept⟩
    obtain ⟨rfl, finite⟩ := Option.filter_eq_some_iff.mp (Except.ok.inj kept)
    exact ⟨Json.typed?_eq_some_iff.mp read, finite⟩
  · rintro ⟨converts, finite⟩
    refine ⟨some number, Json.typed?_eq_some_iff.mpr converts, ?_⟩
    simp [finite, pure, Except.pure]

theorem isWritable_row {x y z : Json} :
    (Json.array [x, y, z]).isWritable = false ↔
      ∃ value ∈ [x, y, z], value.isWritable = false := by
  simp [Json.isWritable, Json.areWritable]
  grind

/-- A row with an integer that cannot be converted fails, whichever of the three it is. -/
theorem moveTo?_of_large
    {x y z : Json}
    (large : ∃ value ∈ [x, y, z], value.IsTooLarge)
    (point : Point) :
    moveTo? point x y z = .error .integerTooLarge := by
  by_cases xLarge : x.IsTooLarge
  · rw [moveTo?, (coordinate?_failsIf x).fails xLarge]
    rfl
  · obtain ⟨x?, readX⟩ := (coordinate?_failsIf x).succeeds xLarge
    by_cases yLarge : y.IsTooLarge
    · rw [moveTo?, readX, ok_bind, (coordinate?_failsIf y).fails yLarge]
      rfl
    · obtain ⟨y?, readY⟩ := (coordinate?_failsIf y).succeeds yLarge
      have zLarge : z.IsTooLarge := by
        simpa [xLarge, yLarge] using large
      rw [moveTo?, readX, ok_bind, readY, ok_bind, (coordinate?_failsIf z).fails zLarge]
      rfl

/-- A row of three finite numbers moves a point unless it is there. -/
theorem moveTo?_of_row
    {x y z : Json}
    {position : Position}
    (row : IsRow x y z position)
    (point : Point) :
    moveTo? point x y z =
      .ok (if isPlaceOf point position then none else some (moveCommand point.id position)) := by
  rw [moveTo?, coordinate?_eq_some_iff.mpr row.x, ok_bind, coordinate?_eq_some_iff.mpr row.y,
    ok_bind, coordinate?_eq_some_iff.mpr row.z, ok_bind]
  dsimp only
  unfold isPlaceOf
  split
  · rfl
  · rfl

/-- Values that are no row of coordinates are left out together. -/
theorem moveTo?_of_noRow
    {x y z : Json}
    (small : ¬ ∃ value ∈ [x, y, z], value.IsTooLarge)
    (noRow : ∀ position, ¬ IsRow x y z position)
    (point : Point) :
    moveTo? point x y z = (Json.array [x, y, z]).discarded := by
  simp only [List.mem_cons, List.not_mem_nil, or_false, exists_eq_or_imp, exists_eq_left,
    not_or] at small
  obtain ⟨x?, readX⟩ := (coordinate?_failsIf x).succeeds small.1
  obtain ⟨y?, readY⟩ := (coordinate?_failsIf y).succeeds small.2.1
  obtain ⟨z?, readZ⟩ := (coordinate?_failsIf z).succeeds small.2.2
  rw [moveTo?, readX, ok_bind, readY, ok_bind, readZ, ok_bind]
  split
  · next a b c =>
    have row : IsRow x y z ⟨a, b, c⟩ :=
      ⟨coordinate?_eq_some_iff.mp readX, coordinate?_eq_some_iff.mp readY,
        coordinate?_eq_some_iff.mp readZ⟩
    exact absurd row (noRow _)
  · rfl

theorem IsRow.not_fails
    {x y z : Json}
    {position : Position}
    (row : IsRow x y z position)
    (error : NumberError) :
    ¬ Json.Fails [x, y, z] error := by
  apply Json.not_fails_of_converts
  simp only [List.forall_mem_cons]
  exact ⟨⟨_, row.x.1⟩, ⟨_, row.y.1⟩, ⟨_, row.z.1⟩, fun _ none => absurd none List.not_mem_nil⟩

/-- A move fails exactly where reading its values does. -/
theorem moveTo?_eq_error_iff
    {point : Point}
    {x y z : Json}
    {error : NumberError} :
    moveTo? point x y z = .error error ↔ Json.Fails [x, y, z] error := by
  by_cases row : ∃ position, IsRow x y z position
  · obtain ⟨position, row⟩ := row
    rw [moveTo?_of_row row]
    simp [row.not_fails error]
  · by_cases large : ∃ value ∈ [x, y, z], value.IsTooLarge
    · rw [moveTo?_of_large large, Json.fails_iff_of_large large]
      exact ⟨fun same => (Except.error.inj same).symm, fun same => same ▸ rfl⟩
    · rw [moveTo?_of_noRow large (not_exists.mp row), Json.fails_iff_of_small large,
        ← isWritable_row]
      exact Json.discarded_failsIf _ error

/-- Only a row of other coordinates is a move. -/
theorem moveTo?_eq_some
    {point : Point}
    {x y z : Json}
    {command : Command}
    (moved : moveTo? point x y z = .ok (some command)) :
    ∃ position,
      IsRow x y z position ∧ isPlaceOf point position = false ∧
        command = moveCommand point.id position := by
  by_cases row : ∃ position, IsRow x y z position
  · obtain ⟨position, row⟩ := row
    rw [moveTo?_of_row row] at moved
    cases place : isPlaceOf point position with
    | true =>
        simp [place] at moved
    | false =>
        simp only [place, Bool.false_eq_true, if_false, Except.ok.injEq, Option.some.injEq] at moved
        exact ⟨position, row, place, moved.symm⟩
  · have small : ¬ ∃ value ∈ [x, y, z], value.IsTooLarge := by
      intro large
      rw [moveTo?_of_large large] at moved
      exact absurd moved (by simp)
    rw [moveTo?_of_noRow small (not_exists.mp row)] at moved
    exact absurd (Json.eq_none_of_discarded moved) (by simp)

theorem editPoint_of_unknown
    {session : Session}
    {id : Int}
    (unknown : session.world.point? id = none)
    (x y z : Json) :
    session.editPoint id x y z = session.only (.ok none) := by
  unfold editPoint
  rw [unknown]

theorem editPoint_of_known
    {session : Session}
    {id : Int}
    {point : Point}
    (known : session.world.point? id = some point)
    (x y z : Json) :
    session.editPoint id x y z =
      match moveTo? point x y z with
      | .error error => session.only (.error error)
      | .ok command? => (session.sending command?).map .ok := by
  cases moved : moveTo? point x y z <;> simp [editPoint, known, moved]

theorem id_of_point?
    {world : World}
    {id : Int}
    {point : Point}
    (known : world.point? id = some point) :
    point.id = id := by
  simpa using List.find?_some known

/-- What comes of three values for a point. -/
theorem takesRow
    (session : Session)
    (id : Int)
    (x y z : Json) :
    session.TakesRow id x y z := by
  cases found : session.world.point? id with
  | none =>
      have outcome := editPoint_of_unknown found x y z
      constructor
      · rw [outcome]
        rfl
      · intro error
        simp [outcome, found, only]
      · intro point position known
        exact absurd (known.symm.trans found) (by simp)
      · intro _
        simp [outcome, only]
  | some point =>
      have outcome := editPoint_of_known found x y z
      have sameId := id_of_point? found
      constructor
      · rw [outcome]
        split <;> rfl
      · intro error
        rw [outcome, ← @moveTo?_eq_error_iff point]
        cases moveTo? point x y z with
        | error other =>
            simp [only, found]
        | ok command? =>
            simp [Outcome.map, found]
      · intro other position known row elsewhere
        obtain rfl := Option.some.inj (found.symm.trans known)
        rw [outcome, moveTo?_of_row row, elsewhere, sameId]
        exact ⟨rfl, rfl⟩
      · intro noMove
        rw [outcome]
        cases moved : moveTo? point x y z with
        | error error =>
            exact ⟨by simp [only], rfl⟩
        | ok command? =>
            cases command? with
            | none =>
                exact ⟨by simp [Outcome.map, sending], rfl⟩
            | some command =>
                obtain ⟨position, row, elsewhere, -⟩ := moveTo?_eq_some moved
                rw [noMove point position found row] at elsewhere
                exact Bool.noConfusion elsewhere

/--
Whatever is typed, a thickness, a price and a row of coordinates are taken or left out as a whole.  The
edit of a material that is there and of a point that is there fails exactly if an integer cannot be
converted, or, but for a price, if a value cannot be shown that is left out.
-/
theorem typedNumbers_taken
    (session : Session)
    (materialId : String)
    (pointId : Int)
    (value x y z : Json) :
    session.catalog.TakesThickness materialId value ∧
      session.catalog.TakesPrice materialId value ∧
      session.TakesRow pointId x y z :=
  ⟨session.catalog.takesThickness materialId value, session.catalog.takesPrice materialId value,
    session.takesRow pointId x y z⟩

/-- A session with one material and one point, which is where the axes meet. -/
def sample : Session where
  replica := { world := { points := [{ id := 1, x := 0, y := 0, z := 0, color := "red" }] } }
  catalog := (Catalog.addMaterial {}).1

/-- A thickness that is no number, a price that is none, and a row that moves the point. -/
theorem typedNumbers_taken_sample :
    sample.catalog.update "00000001" "thickness" (.string "wide") = .ok (sample.catalog, false) ∧
      sample.catalog.update "00000001" "price" (.array []) =
        .ok (sample.catalog.withPrice "00000001" 0, true) ∧
      (sample.editPoint 1 (.string "1") (.bool false) (.number (.int 2))).effects =
        [.published "Move(p1, 1, 0, 2)"] := by
  obtain ⟨thickness, -, row⟩ :=
    sample.typedNumbers_taken "00000001" 1 (.string "wide") (.string "1") (.bool false)
      (.number (.int 2))
  obtain ⟨-, price, -⟩ := sample.typedNumbers_taken "00000001" 1 (.array []) .null .null .null
  have known : (sample.catalog.get? "00000001").isSome := by
    decide +kernel
  have unread : (Json.string "wide").toReal.toOption = none := by
    decide +kernel
  refine ⟨thickness.discarded ?_ ?_, price.discarded known ?_ ?_, ?_⟩
  · rintro error (⟨⟨other, member, integer, isInteger, -⟩⟩ | ⟨-, ⟨other, member, unwritable⟩⟩)
    · obtain rfl := List.mem_singleton.mp member
      exact Json.noConfusion isInteger
    · obtain rfl := List.mem_singleton.mp member
      exact Bool.noConfusion unwritable
  · intro number converts
    rw [converts.1] at unread
    exact absurd unread (by simp [Except.toOption])
  · rintro ⟨integer, isInteger, -⟩
    exact Json.noConfusion isInteger
  · rintro number ⟨converts, -⟩
    exact absurd converts (by simp [Json.toReal])
  · have isRow : IsRow (.string "1") (.bool false) (.number (.int 2)) ⟨1, 0, 2⟩ := by
      refine ⟨⟨⟨eq_ok_of_toOption ?_, ?_⟩, ?_⟩, ⟨⟨eq_ok_of_toOption ?_, ?_⟩, ?_⟩,
        ⟨⟨eq_ok_of_toOption ?_, ?_⟩, ?_⟩⟩
      all_goals decide +kernel
    have elsewhere :
        isPlaceOf { id := 1, x := 0, y := 0, z := 0, color := "red" } ⟨1, 0, 2⟩ = false := by
      decide +kernel
    rw [(row.moved _ _ rfl isRow elsewhere).2]
    decide +kernel

/--
An integer that cannot be converted escapes from all three edits, and a list with an integer of too
many digits escapes from the edit that leaves it out.
-/
theorem typedNumbers_escape :
    let large : Json := .number (.int ((10 ^ 400 : Nat) : Int))
    let long : Json := .array [.number (.int ((10 ^ 5000 : Nat) : Int))]
    sample.catalog.update "00000001" "thickness" large =
        .error (.number .integerTooLarge) ∧
      sample.catalog.update "00000001" "price" large = .error (.number .integerTooLarge) ∧
      (sample.editPoint 1 large large large).result = .error .integerTooLarge ∧
      sample.catalog.update "00000001" "thickness" long =
        .error (.number .unwritableInteger) := by
  intro large long
  have tooLarge : large.IsTooLarge := by
    refine ⟨_, rfl, ?_⟩
    rw [Int.natAbs_natCast]
    decide +kernel
  have unwritable : long.isWritable = false := by
    decide +kernel
  have known : (sample.catalog.get? "00000001").isSome := by
    decide +kernel
  have knownPoint : (sample.world.point? 1).isSome := by
    decide +kernel
  refine ⟨?_, ?_, ?_, ?_⟩
  · rw [(sample.catalog.takesThickness _ large).fails_iff]
    exact ⟨known, _, .tooLarge ⟨large, List.mem_cons_self, tooLarge⟩, rfl⟩
  · rw [(sample.catalog.takesPrice _ large).fails_iff]
    exact ⟨known, tooLarge, rfl⟩
  · rw [(sample.takesRow 1 large large large).fails_iff]
    exact ⟨knownPoint, .tooLarge ⟨large, List.mem_cons_self, tooLarge⟩⟩
  · rw [(sample.catalog.takesThickness _ long).fails_iff]
    refine ⟨known, _, .unwritable ?_ ⟨long, List.mem_cons_self, unwritable⟩, rfl⟩
    rintro ⟨other, member, integer, isInteger, -⟩
    obtain rfl := List.mem_singleton.mp member
    exact Json.noConfusion isInteger

end Session

end SceneEditor
