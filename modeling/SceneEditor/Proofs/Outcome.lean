import Mathlib.Data.List.Forall2
import SceneEditor.Proofs.Attempt

namespace SceneEditor

/-!
# Outcomes of steps

Whether a step succeeds is often decided apart from what it gives.  Two runs of the same steps on
inputs that differ a little agree: they fail together, or give results that differ a little.
-/

namespace Attempt

/-- The step has a result. -/
def Succeeds (step : Except ε α) : Prop :=
  ∃ result, step = .ok result

theorem succeeds_ok (result : α) :
    Succeeds (.ok result : Except ε α) :=
  ⟨result, rfl⟩

theorem not_succeeds_error (failure : ε) :
    ¬ Succeeds (.error failure : Except ε α) :=
  fun ⟨_, isOk⟩ => nomatch isOk

/-- Where the next step succeeds or fails whatever the first one gives, both succeed exactly if
each of them does. -/
theorem succeeds_bind
    {step : Except ε α}
    {next : α → Except ε β}
    {first last : Prop}
    (ofStep : Succeeds step ↔ first)
    (ofNext : ∀ value, Succeeds (next value) ↔ last) :
    Succeeds (step >>= next) ↔ first ∧ last := by
  rw [← ofStep]
  cases step with
  | error failure =>
      exact iff_of_false (not_succeeds_error failure)
        fun both => not_succeeds_error failure both.1
  | ok value =>
      rw [ok_bind, ofNext value]
      exact (and_iff_right (succeeds_ok value)).symm

/-- A change of the result does not touch the success. -/
theorem succeeds_map
    (step : Except ε α)
    (change : α → β) :
    Succeeds (change <$> step) ↔ Succeeds step := by
  cases step with
  | error failure =>
      exact iff_of_false (not_succeeds_error failure) (not_succeeds_error failure)
  | ok value =>
      exact iff_of_true (succeeds_ok _) (succeeds_ok value)

/-- A step over each item of a list succeeds exactly if it does so at each of them. -/
theorem succeeds_mapM
    {step : α → Except ε β}
    {valid : α → Prop}
    (ofStep : ∀ item, Succeeds (step item) ↔ valid item)
    (items : List α) :
    Succeeds (items.mapM step) ↔ ∀ item ∈ items, valid item := by
  induction items with
  | nil =>
      exact iff_of_true (succeeds_ok []) (List.forall_mem_nil _)
  | cons first rest inductionHypothesis =>
      rw [List.mapM_cons, List.forall_mem_cons]
      refine succeeds_bind (ofStep first) fun value => ?_
      rw [bind_pure_comp, succeeds_map]
      exact inductionHypothesis

/-- A list is mapped as a whole exactly if every one of its items is. -/
theorem isSome_mapM
    (step : α → Option β)
    (items : List α) :
    (items.mapM step).isSome ↔ ∀ item ∈ items, (step item).isSome := by
  induction items with
  | nil =>
      exact iff_of_true rfl (List.forall_mem_nil _)
  | cons first rest inductionHypothesis =>
      rw [List.forall_mem_cons, ← inductionHypothesis, List.mapM_cons]
      cases step first with
      | none =>
          exact iff_of_false Bool.false_ne_true fun both => absurd both.1 Bool.false_ne_true
      | some value =>
          cases rest.mapM step with
          | none =>
              exact iff_of_false Bool.false_ne_true fun both => absurd both.2 Bool.false_ne_true
          | some values =>
              exact iff_of_true rfl ⟨rfl, rfl⟩

/-- Neither step has a result, or both have, and the results are related. -/
def Agree
    (related : α → β → Prop) :
    Except ε α → Except ε β → Prop
  | .ok left, .ok right => related left right
  | .error _, .error _ => True
  | _, _ => False

/-- Steps that agree, with what comes next agreeing on related results, agree as a whole. -/
theorem Agree.bind
    {related : α → β → Prop}
    {onward : γ → δ → Prop}
    {left : Except ε α}
    {right : Except ε β}
    {nextLeft : α → Except ε γ}
    {nextRight : β → Except ε δ}
    (steps : Agree related left right)
    (nexts : ∀ one other, related one other → Agree onward (nextLeft one) (nextRight other)) :
    Agree onward (left >>= nextLeft) (right >>= nextRight) := by
  cases left with
  | error failure =>
      cases right with
      | error other =>
          exact trivial
      | ok value =>
          exact steps.elim
  | ok value =>
      cases right with
      | error failure =>
          exact steps.elim
      | ok other =>
          exact nexts value other steps

/-- Results that are related before a change are related behind it. -/
theorem Agree.map
    {related : α → β → Prop}
    {onward : γ → δ → Prop}
    {left : Except ε α}
    {right : Except ε β}
    {changeLeft : α → γ}
    {changeRight : β → δ}
    (steps : Agree related left right)
    (changes : ∀ one other, related one other → onward (changeLeft one) (changeRight other)) :
    Agree onward (changeLeft <$> left) (changeRight <$> right) :=
  steps.bind changes

/-- Equal steps agree. -/
theorem Agree.of_eq
    {related : α → α → Prop}
    (reflexive : ∀ value, related value value)
    {left right : Except ε α}
    (same : left = right) :
    Agree related left right := by
  subst same
  cases left with
  | error failure =>
      exact trivial
  | ok value =>
      exact reflexive value

/-- The three lists have one length, and what stands at one place in all of them is related. -/
inductive Forall₃ (related : α → β → γ → Prop) : List α → List β → List γ → Prop where
  | nil : Forall₃ related [] [] []
  | cons {one : α} {ones : List α} {other : β} {others : List β} {third : γ} {thirds : List γ}
      (head : related one other third)
      (tail : Forall₃ related ones others thirds) :
      Forall₃ related (one :: ones) (other :: others) (third :: thirds)

/-- Where the results of two items are related in a way that the first of the items decides, so are
the results of two lists. -/
theorem Agree.mapM
    {like : α → β → Prop}
    {related : α → γ → δ → Prop}
    {onLeft : α → Except ε γ}
    {onRight : β → Except ε δ}
    (each : ∀ one other, like one other → Agree (related one) (onLeft one) (onRight other))
    {left : List α}
    {right : List β}
    (items : List.Forall₂ like left right) :
    Agree (Forall₃ related left) (left.mapM onLeft) (right.mapM onRight) := by
  induction items with
  | nil =>
      exact Forall₃.nil
  | cons first _ inductionHypothesis =>
      rw [List.mapM_cons, List.mapM_cons]
      refine Agree.bind (each _ _ first) fun one other head => ?_
      refine Agree.bind inductionHypothesis fun ones others tail => ?_
      exact Forall₃.cons head tail

theorem Agree.trans
    {first : α → β → Prop}
    {second : β → γ → Prop}
    {both : α → γ → Prop}
    {left : Except ε α}
    {middle : Except ε β}
    {right : Except ε γ}
    (toMiddle : Agree first left middle)
    (fromMiddle : Agree second middle right)
    (compose : ∀ one other third, first one other → second other third → both one third) :
    Agree both left right := by
  cases middle with
  | error failure =>
      cases left with
      | ok value =>
          exact toMiddle.elim
      | error other =>
          cases right with
          | ok value =>
              exact fromMiddle.elim
          | error third =>
              exact trivial
  | ok value =>
      cases left with
      | error failure =>
          exact toMiddle.elim
      | ok one =>
          cases right with
          | error failure =>
              exact fromMiddle.elim
          | ok other =>
              exact compose one value other toMiddle fromMiddle

/-- The items of a list may be read in another order, unless the failure matters. -/
theorem Agree.mapM_of_perm
    (step : α → Except ε β)
    {left right : List α}
    (reordered : left.Perm right) :
    Agree List.Perm (left.mapM step) (right.mapM step) := by
  induction reordered with
  | nil =>
      exact .nil
  | cons item _ inductionHypothesis =>
      rw [List.mapM_cons, List.mapM_cons]
      refine Agree.bind (.of_eq (fun _ => rfl) rfl) fun value other same => ?_
      subst same
      exact inductionHypothesis.map fun _ _ => .cons value
  | swap one other rest =>
      simp only [List.mapM_cons]
      cases step one with
      | error failure =>
          cases step other with
          | error third =>
              exact trivial
          | ok value =>
              exact trivial
      | ok value =>
          cases step other with
          | error failure =>
              exact trivial
          | ok otherValue =>
              cases rest.mapM step with
              | error failure =>
                  exact trivial
              | ok values =>
                  exact .swap value otherValue values
  | trans _ _ inductionHypothesis next =>
      exact inductionHypothesis.trans next fun _ _ _ => .trans

/-- Two lists are mapped to the same one where their items are, in turn. -/
theorem mapM_congr
    {m : Type → Type}
    [Monad m]
    [LawfulMonad m]
    {γ : Type}
    {onLeft : α → m γ}
    {onRight : β → m γ}
    {left : List α}
    {right : List β}
    (items : List.Forall₂ (fun one other => onLeft one = onRight other) left right) :
    left.mapM onLeft = right.mapM onRight := by
  induction items with
  | nil =>
      rfl
  | cons first _ inductionHypothesis =>
      rw [List.mapM_cons, List.mapM_cons, first, inductionHypothesis]

end Attempt

end SceneEditor
