import Mathlib.Data.List.Forall2
import SceneEditor.Json.Basic

namespace SceneEditor

/-!
# The order of keys

Two values are the same up to the order of keys if they differ only in the order in which their
objects, at any depth, have their keys.  Who looks up the fields of an object by their keys cannot
tell such values apart.
-/

namespace Json

/-- The second value is the first one with the keys of its objects, at any depth, in another
order. -/
inductive Rearranged : Json → Json → Prop where
  | same (value : Json) : Rearranged value value
  | array {left right : List Json}
      (items : List.Forall₂ Rearranged left right) :
      Rearranged (.array left) (.array right)
  | object {left middle right : List (String × Json)}
      (distinct : (left.map Prod.fst).Nodup)
      (reordered : left.Perm middle)
      (sameKeys : middle.map Prod.fst = right.map Prod.fst)
      (values : List.Forall₂ Rearranged (middle.map Prod.snd) (right.map Prod.snd)) :
      Rearranged (.object left) (.object right)

/-- No object of two or more keys stands in the value, at any depth, so that its keys have one order
only. -/
inductive HasOneOrder : Json → Prop where
  | scalar {value : Json}
      (noList : ∀ items, value ≠ .array items)
      (noObject : ∀ fields, value ≠ .object fields) :
      HasOneOrder value
  | array {items : List Json}
      (each : ∀ item ∈ items, HasOneOrder item) :
      HasOneOrder (.array items)
  | object {fields : List (String × Json)}
      (single : fields.length ≤ 1)
      (each : ∀ field ∈ fields, HasOneOrder field.2) :
      HasOneOrder (.object fields)

/-- The value of a key that an object has and that is not null. -/
def member? (key : String) : Json → Option Json
  | .object fields => present? key fields
  | _ => none

/-- The two objects have like values at the key, or both have none. -/
def AlikeAt
    (like : Json → Json → Prop)
    (key : String)
    (left right : List (String × Json)) :
    Prop :=
  Option.Rel like (present? key left) (present? key right)

/-- Both values are lists, of like items, or none of them is a list. -/
def AlikeLists (like : Json → Json → Prop) : Json → Json → Prop
  | .array left, .array right => List.Forall₂ like left right
  | .array _, _ => False
  | _, .array _ => False
  | _, _ => True

/-- Both values are objects, which are alike, or none of them is an object. -/
def AlikeObjects
    (like : List (String × Json) → List (String × Json) → Prop) :
    Json → Json → Prop
  | .object left, .object right => like left right
  | .object _, _ => False
  | _, .object _ => False
  | _, _ => True

/-- Whether a document counts as true does not depend on the order of its keys. -/
theorem Rearranged.isTruthy
    {left right : Json}
    (rearranged : Rearranged left right) :
    left.isTruthy = right.isTruthy := by
  cases rearranged with
  | same value =>
      rfl
  | array items =>
      cases items with
      | nil =>
          rfl
      | cons first rest =>
          rfl
  | object distinct reordered sameKeys values =>
      rename_i left middle right
      have sameLength : left.length = right.length := by
        simpa using reordered.length_eq.trans (by simpa using congrArg List.length sameKeys)
      cases left with
      | nil =>
          cases right with
          | nil =>
              rfl
          | cons first rest =>
              exact absurd sameLength (by simp)
      | cons first rest =>
          cases right with
          | nil =>
              exact absurd sameLength (by simp)
          | cons other others =>
              rfl

/-- Only a list or an object has keys to rearrange. -/
theorem Rearranged.eq_of_scalar
    {left right : Json}
    (rearranged : Rearranged left right)
    (noList : ∀ items, left ≠ .array items)
    (noObject : ∀ fields, left ≠ .object fields) :
    left = right := by
  cases rearranged with
  | same value =>
      rfl
  | array items =>
      exact absurd rfl (noList _)
  | object distinct reordered sameKeys values =>
      exact absurd rfl (noObject _)

theorem field?_cons
    (key : String)
    (field : String × Json)
    (rest : List (String × Json)) :
    field? key (field :: rest) = if field.1 = key then some field.2 else field? key rest := by
  obtain ⟨name, value⟩ := field
  unfold field?
  rw [List.find?_cons]
  by_cases isKey : name = key
  · simp [isKey]
  · simp [isKey, beq_false_of_ne isKey]

/-- A key has one value among distinct keys, wherever it stands. -/
theorem field?_of_perm
    {left right : List (String × Json)}
    (reordered : left.Perm right)
    (distinct : (left.map Prod.fst).Nodup)
    (key : String) :
    field? key left = field? key right := by
  induction reordered with
  | nil =>
      rfl
  | cons field _ inductionHypothesis =>
      rw [List.map_cons, List.nodup_cons] at distinct
      rw [field?_cons, field?_cons, inductionHypothesis distinct.2]
  | swap one other rest =>
      rw [List.map_cons, List.map_cons, List.nodup_cons] at distinct
      have apart : other.1 ≠ one.1 := fun same => distinct.1 (by simp [same])
      simp only [field?_cons]
      by_cases isOne : one.1 = key
      · have notOther : ¬ other.1 = key := fun isOther => apart (isOther.trans isOne.symm)
        rw [if_neg notOther, if_pos isOne, if_pos isOne]
      · rw [if_neg isOne, if_neg isOne]
  | trans first _ inductionHypothesis next =>
      exact (inductionHypothesis distinct).trans
        (next ((first.map Prod.fst).nodup_iff.mp distinct))

/-- The key is the same and the value is rearranged. -/
def RearrangedField (old new : String × Json) : Prop :=
  old.1 = new.1 ∧ Rearranged old.2 new.2

/-- Fields with the same keys and rearranged values are rearranged one by one. -/
theorem rearrangedFields
    {left right : List (String × Json)}
    (sameKeys : left.map Prod.fst = right.map Prod.fst)
    (values : List.Forall₂ Rearranged (left.map Prod.snd) (right.map Prod.snd)) :
    List.Forall₂ RearrangedField left right := by
  induction left generalizing right with
  | nil =>
      cases right with
      | nil =>
          exact .nil
      | cons other others =>
          exact absurd sameKeys (by simp)
  | cons first rest inductionHypothesis =>
      cases right with
      | nil =>
          exact absurd sameKeys (by simp)
      | cons other others =>
          obtain ⟨sameKey, sameOthers⟩ := List.cons_eq_cons.mp sameKeys
          obtain ⟨value, otherValues⟩ := List.forall₂_cons.mp values
          exact .cons ⟨sameKey, value⟩ (inductionHypothesis sameOthers otherValues)

/-- Lists are the same where an item cannot be anything but the one that it is related to. -/
theorem eq_of_forall₂
    {related : α → α → Prop}
    {left right : List α}
    (items : List.Forall₂ related left right)
    (each : ∀ item ∈ left, ∀ other, related item other → item = other) :
    left = right := by
  have determined :=
    (List.forall₂_and_left (p := fun item => ∀ other, related item other → item = other) _ _).mpr
      ⟨each, items⟩
  have same := determined.imp fun _ other ⟨isOther, item⟩ => isOther other item
  rwa [List.forall₂_eq_eq_eq] at same

/-- Nothing can be rearranged in a value whose keys have one order only. -/
theorem Rearranged.eq_of_hasOneOrder
    {left right : Json}
    (rearranged : Rearranged left right)
    (oneOrder : left.HasOneOrder) :
    left = right := by
  induction oneOrder generalizing right with
  | scalar noList noObject =>
      exact rearranged.eq_of_scalar noList noObject
  | array each inductionHypothesis =>
      cases rearranged with
      | same =>
          rfl
      | array items =>
          exact congrArg Json.array
            (eq_of_forall₂ items fun item isItem _ => inductionHypothesis item isItem)
  | @object fields single each inductionHypothesis =>
      cases rearranged with
      | same =>
          rfl
      | @object _ middle right distinct reordered sameKeys values =>
          -- A list of at most one field has no other order.
          have inOrder : middle = fields := by
            match fields, single with
            | [], _ =>
                exact reordered.nil_eq.symm
            | [field], _ =>
                exact List.singleton_perm.mp reordered |>.symm
          rw [inOrder] at sameKeys values
          refine congrArg Json.object (eq_of_forall₂ (rearrangedFields sameKeys values) ?_)
          exact fun field isField other ⟨sameKey, value⟩ =>
            Prod.ext sameKey (inductionHypothesis field isField value)

/-- What a key stands for in rearranged fields is rearranged. -/
theorem rel_field?
    {left right : List (String × Json)}
    (fields : List.Forall₂ RearrangedField left right)
    (key : String) :
    Option.Rel Rearranged (field? key left) (field? key right) := by
  induction fields with
  | nil =>
      exact .none
  | @cons old new _ _ field _ inductionHypothesis =>
      rw [field?_cons, field?_cons, field.1]
      by_cases isKey : new.1 = key
      · rw [if_pos isKey, if_pos isKey]
        exact .some field.2
      · rw [if_neg isKey, if_neg isKey]
        exact inductionHypothesis

/-- A key that is alike is absent from both sides, or it has like values on them. -/
theorem AlikeAt.cases
    {like : Json → Json → Prop}
    {key : String}
    {left right : List (String × Json)}
    (alike : AlikeAt like key left right) :
    (present? key left = none ∧ present? key right = none) ∨
      ∃ old new, present? key left = some old ∧ present? key right = some new ∧
        like old new := by
  unfold AlikeAt at alike
  generalize present? key left = old at alike
  generalize present? key right = new at alike
  cases alike with
  | none =>
      exact .inl ⟨rfl, rfl⟩
  | some values =>
      exact .inr ⟨_, _, rfl, rfl, values⟩

/-- A key that is alike is present on both sides or on none. -/
theorem AlikeAt.isSome_eq
    {like : Json → Json → Prop}
    {key : String}
    {left right : List (String × Json)}
    (alike : AlikeAt like key left right) :
    (present? key left).isSome = (present? key right).isSome := by
  obtain ⟨noOld, noNew⟩ | ⟨old, new, isOld, isNew, -⟩ := alike.cases
  · rw [noOld, noNew]
  · rw [isOld, isNew]
    rfl

/-- Objects that are rearranged have rearranged values at every key. -/
theorem Rearranged.alikeAt
    {left right : List (String × Json)}
    (rearranged : Rearranged (.object left) (.object right))
    (key : String) :
    AlikeAt Rearranged key left right := by
  have related : Option.Rel Rearranged (field? key left) (field? key right) := by
    cases rearranged with
    | same value =>
        cases field? key left with
        | none =>
            exact .none
        | some value =>
            exact .some (.same value)
    | object distinct reordered sameKeys values =>
        rw [field?_of_perm reordered distinct]
        exact rel_field? (rearrangedFields sameKeys values) key
  unfold AlikeAt present?
  generalize field? key left = old at related
  generalize field? key right = new at related
  cases related with
  | none =>
      exact .none
  | @some value _ values =>
      cases values with
      | same =>
          cases value with
          | null =>
              exact .none
          | _ =>
              exact .some (.same _)
      | array items =>
          exact .some (.array items)
      | object distinct reordered sameKeys inside =>
          exact .some (.object distinct reordered sameKeys inside)

/-- Where the first value has one order only, the objects have the same value at the key. -/
theorem AlikeAt.eq_of_hasOneOrder
    {key : String}
    {left right : List (String × Json)}
    (alike : AlikeAt Rearranged key left right)
    (oneOrder : ∀ value, present? key left = some value → value.HasOneOrder) :
    present? key left = present? key right := by
  obtain ⟨noOld, noNew⟩ | ⟨old, new, isOld, isNew, value⟩ := alike.cases
  · rw [noOld, noNew]
  · rw [isOld, isNew, value.eq_of_hasOneOrder (oneOrder old isOld)]

/-- The value of a key, or null, up to the order of keys. -/
theorem AlikeAt.getD
    {key : String}
    {left right : List (String × Json)}
    (alike : AlikeAt Rearranged key left right) :
    Rearranged ((field? key left).getD .null) ((field? key right).getD .null) := by
  have getD_present? (fields : List (String × Json)) :
      (field? key fields).getD .null = (present? key fields).getD .null := by
    unfold present?
    cases field? key fields with
    | none =>
        rfl
    | some value =>
        cases value with
        | _ =>
            rfl
  rw [getD_present?, getD_present?]
  obtain ⟨noOld, noNew⟩ | ⟨old, new, isOld, isNew, values⟩ := alike.cases
  · rw [noOld, noNew]
    exact .same _
  · rw [isOld, isNew]
    exact values

/-- Rearranged lists have like items, if rearranged items are alike. -/
theorem alikeLists_of_rearranged
    {like : Json → Json → Prop}
    (each : ∀ left right, Rearranged left right → like left right)
    {left right : Json}
    (rearranged : Rearranged left right) :
    AlikeLists like left right := by
  cases rearranged with
  | same =>
      cases left with
      | array items =>
          exact List.forall₂_same.mpr fun item _ => each item item (.same item)
      | _ =>
          exact trivial
  | array items =>
      exact items.imp each
  | object =>
      exact trivial

/-- Rearranged objects have like fields, if rearranged fields are alike. -/
theorem alikeObjects_of_rearranged
    {like : List (String × Json) → List (String × Json) → Prop}
    (each : ∀ fields others, Rearranged (.object fields) (.object others) → like fields others)
    {left right : Json}
    (rearranged : Rearranged left right) :
    AlikeObjects like left right := by
  cases rearranged with
  | same =>
      cases left with
      | object fields =>
          exact each fields fields (.same _)
      | _ =>
          exact trivial
  | array items =>
      exact trivial
  | object distinct reordered sameKeys values =>
      exact each _ _ (.object distinct reordered sameKeys values)

end Json

end SceneEditor
