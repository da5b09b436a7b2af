namespace SceneEditor

/-!
# Steps that may fail

A chain of steps succeeds exactly if each of them does.  A step that changes a state as well is
followed from state to state; what it changed before it failed stays changed.
-/

namespace Attempt

theorem ok_bind
    (value : α)
    (next : α → Except ε β) :
    (.ok value >>= next) = next value :=
  rfl

/-- A step and the next succeed exactly if the step does and then the next does. -/
theorem bind_eq_ok_iff
    {step : Except ε α}
    {next : α → Except ε β}
    {result : β} :
    (step >>= next) = .ok result ↔ ∃ value, step = .ok value ∧ next value = .ok result := by
  cases step with
  | error failure =>
      simp [bind, Except.bind]
  | ok value =>
      simp [bind, Except.bind]

/-- A step and the next fail exactly if the step does, or succeeds and then the next fails. -/
theorem bind_eq_error_iff
    {step : Except ε α}
    {next : α → Except ε β}
    {failure : ε} :
    (step >>= next) = .error failure ↔
      step = .error failure ∨ ∃ value, step = .ok value ∧ next value = .error failure := by
  cases step with
  | error other =>
      simp [bind, Except.bind]
  | ok value =>
      simp [bind, Except.bind]

/-- A change of the result succeeds exactly if the step does. -/
theorem map_eq_ok_iff
    {step : Except ε α}
    {change : α → β}
    {result : β} :
    step.map change = .ok result ↔ ∃ value, step = .ok value ∧ change value = result := by
  cases step with
  | error failure =>
      simp [Except.map]
  | ok value =>
      simp [Except.map]

/-- A step that has a result succeeds with it. -/
theorem eq_ok_of_toOption
    {step : Except ε α}
    {result : α}
    (found : step.toOption = some result) :
    step = .ok result := by
  cases step with
  | error failure =>
      exact absurd found (by simp [Except.toOption])
  | ok value =>
      exact congrArg Except.ok (Option.some.inj found)

/-- The failure of a step, if it fails. -/
def failure? : Except ε α → Option ε
  | .error failure => some failure
  | .ok _ => none

/-- The failure of a step is the one that it ends in. -/
theorem failure?_eq_some_iff
    {step : Except ε α}
    {failure : ε} :
    failure? step = some failure ↔ step = .error failure := by
  cases step with
  | error other =>
      simp [failure?]
  | ok value =>
      simp [failure?]

theorem eq_error_of_failure?
    {step : Except ε α}
    {failure : ε}
    (found : failure? step = some failure) :
    step = .error failure :=
  failure?_eq_some_iff.mp found

/-- A step and the next fail with the failure of the step, or else with that of the next. -/
theorem failure?_bind
    {step : Except ε α}
    {next : α → Except ε β}
    {later : Option ε}
    (follows : ∀ value, step = .ok value → failure? (next value) = later) :
    failure? (step >>= next) = (failure? step).or later := by
  cases step with
  | error failure =>
      rfl
  | ok value =>
      exact follows value rfl

/-- A failure that is told in other words is still the failure. -/
theorem failure?_mapError
    (step : Except ε α)
    (change : ε → δ) :
    failure? (step.mapError change) = (failure? step).map change := by
  cases step with
  | error failure =>
      rfl
  | ok value =>
      rfl

/-!
## Steps that fail in one way
-/

/-- The step fails exactly under the condition, and then with this failure. -/
def FailsIf (step : Except ε α) (failure : ε) (condition : Prop) : Prop :=
  ∀ error, step = .error error ↔ error = failure ∧ condition

theorem FailsIf.fails
    {step : Except ε α}
    {failure : ε}
    {condition : Prop}
    (failsIf : FailsIf step failure condition)
    (holds : condition) :
    step = .error failure :=
  (failsIf failure).mpr ⟨rfl, holds⟩

/-- Where the condition does not hold, the step has a result. -/
theorem FailsIf.succeeds
    {step : Except ε α}
    {failure : ε}
    {condition : Prop}
    (failsIf : FailsIf step failure condition)
    (holds : ¬ condition) :
    ∃ value, step = .ok value := by
  cases result : step with
  | error error =>
      exact absurd ((failsIf error).mp result).2 holds
  | ok value =>
      exact ⟨value, rfl⟩

/-- The condition may be said in other words. -/
theorem FailsIf.of_iff
    {step : Except ε α}
    {failure : ε}
    {condition other : Prop}
    (failsIf : FailsIf step failure condition)
    (same : condition ↔ other) :
    FailsIf step failure other := by
  rw [← same]
  exact failsIf

/-- A step that succeeds fails under a condition that never holds. -/
theorem failsIf_of_ok
    {value : α}
    {failure : ε}
    {condition : Prop}
    (never : ¬ condition) :
    FailsIf (.ok value) failure condition := by
  intro error
  simp [never]

theorem not_error_of_ok
    {step : Except ε α}
    (succeeds : ∃ value, step = .ok value)
    {error : ε} :
    step = .error error ↔ False := by
  obtain ⟨value, rfl⟩ := succeeds
  simp

/-- A step that fails does so under a condition that always holds. -/
theorem failsIf_of_error
    {failure : ε}
    {condition : Prop}
    (always : condition) :
    FailsIf (.error failure : Except ε α) failure condition := by
  intro error
  simp [always, eq_comm]

/-- A change of the result does not touch the failure. -/
theorem FailsIf.map
    {step : Except ε α}
    {failure : ε}
    {condition : Prop}
    (failsIf : FailsIf step failure condition)
    (change : α → β) :
    FailsIf (change <$> step) failure condition := by
  intro error
  rw [← failsIf error]
  cases step with
  | error other =>
      simp [Functor.map, Except.map]
  | ok value =>
      simp [Functor.map, Except.map]

/-- Two steps in a row fail if one of them does. -/
theorem FailsIf.bind
    {step : Except ε α}
    {next : α → Except ε β}
    {failure : ε}
    {first later : Prop}
    (firstFails : FailsIf step failure first)
    (laterFails : ∀ value, FailsIf (next value) failure later) :
    FailsIf (step >>= next) failure (first ∨ later) := by
  intro error
  rw [bind_eq_error_iff, firstFails error]
  constructor
  · rintro (⟨rfl, holds⟩ | ⟨value, -, fails⟩)
    · exact ⟨rfl, Or.inl holds⟩
    · obtain ⟨rfl, holds⟩ := (laterFails value error).mp fails
      exact ⟨rfl, Or.inr holds⟩
  · rintro ⟨rfl, holds⟩
    by_cases firstHolds : first
    · exact Or.inl ⟨rfl, firstHolds⟩
    · obtain ⟨value, result⟩ := firstFails.succeeds firstHolds
      exact Or.inr ⟨value, result, (laterFails value).fails (holds.resolve_left firstHolds)⟩

/-- A step that is followed by one that always succeeds. -/
theorem FailsIf.bind_ok
    {step : Except ε α}
    {next : α → Except ε β}
    {failure : ε}
    {condition : Prop}
    (failsIf : FailsIf step failure condition)
    (succeeds : ∀ value, ∃ result, next value = .ok result) :
    FailsIf (step >>= next) failure condition := by
  have never (value : α) : FailsIf (next value) failure False := by
    obtain ⟨result, succeeds⟩ := succeeds value
    rw [succeeds]
    exact failsIf_of_ok not_false
  exact (failsIf.bind never).of_iff (iff_of_eq (or_false condition))

/-- A step fails on a list if it does on one of its members. -/
theorem failsIf_mapM
    {step : α → Except ε β}
    {failure : ε}
    {condition : α → Prop}
    (failsIf : ∀ value, FailsIf (step value) failure (condition value))
    (values : List α) :
    FailsIf (values.mapM step) failure (∃ value ∈ values, condition value) := by
  induction values with
  | nil =>
      exact failsIf_of_ok (by simp)
  | cons value rest inductionHypothesis =>
      rw [List.mapM_cons]
      have either :
          (condition value ∨ ∃ other ∈ rest, condition other) ↔
            ∃ other ∈ value :: rest, condition other := by
        simp
      refine FailsIf.of_iff ((failsIf value).bind fun first => ?_) either
      exact inductionHypothesis.bind_ok fun later => ⟨first :: later, rfl⟩

/-!
## Steps that change a state
-/

/-- What comes next starts from the state that a step left behind. -/
theorem run_bind_ok
    {step : EStateM ε σ α}
    {next : α → EStateM ε σ β}
    {value : α}
    {state later : σ}
    (succeeds : step.run state = .ok value later) :
    (step >>= next).run state = (next value).run later := by
  have result : step state = .ok value later := succeeds
  simp only [bind, EStateM.run, EStateM.bind, result]

/-- Nothing comes after a step that failed. -/
theorem run_bind_error
    {step : EStateM ε σ α}
    {next : α → EStateM ε σ β}
    {failure : ε}
    {state later : σ}
    (fails : step.run state = .error failure later) :
    (step >>= next).run state = .error failure later := by
  have result : step state = .error failure later := fails
  simp only [bind, EStateM.run, EStateM.bind, result]

theorem run_get_bind
    (next : σ → EStateM ε σ α)
    (state : σ) :
    (get >>= next).run state = (next state).run state :=
  rfl

theorem run_modify
    (change : σ → σ)
    (state : σ) :
    (modify change : EStateM ε σ PUnit).run state = .ok () (change state) :=
  rfl

/-- A step that succeeds needs no rescue. -/
theorem run_tryCatch_ok
    {body : EStateM ε σ α}
    {rescue : ε → EStateM ε σ α}
    {value : α}
    {state later : σ}
    (succeeds : body.run state = .ok value later) :
    (tryCatch body rescue).run state = .ok value later := by
  have result : body state = .ok value later := succeeds
  change EStateM.tryCatch body rescue state = .ok value later
  delta EStateM.tryCatch
  rw [result]

/-- What fails is rescued from where it failed, and not from where it began. -/
theorem run_tryCatch_error
    {body : EStateM ε σ α}
    {rescue : ε → EStateM ε σ α}
    {failure : ε}
    {state later : σ}
    (fails : body.run state = .error failure later) :
    (tryCatch body rescue).run state = (rescue failure).run later := by
  have result : body state = .error failure later := fails
  change EStateM.tryCatch body rescue state = rescue failure later
  delta EStateM.tryCatch
  rw [result]
  rfl

/-- Steps that never fail go through a list from state to state. -/
theorem run_forM
    {step : α → EStateM ε σ PUnit}
    {next : σ → α → σ}
    (succeeds : ∀ value state, (step value).run state = .ok () (next state value))
    (values : List α)
    (state : σ) :
    (forM values step).run state = .ok () (values.foldl next state) := by
  induction values generalizing state with
  | nil =>
      rfl
  | cons value rest inductionHypothesis =>
      rw [List.forM_cons, run_bind_ok (succeeds value state), inductionHypothesis]
      rfl

end Attempt

end SceneEditor
