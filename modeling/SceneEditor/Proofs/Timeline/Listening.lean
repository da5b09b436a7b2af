import Mathlib.Data.List.FinRange
import Mathlib.Data.List.Nodup
import SceneEditor.Proofs.Timeline.PointerHub

namespace SceneEditor.PointerHub

/-!
# Gestures that listen exactly while they are active

A hub is matched if every gesture listens once to both events or to none, and the active ones are
those that listen.  Making a gesture, releasing one, and starting one that is not active keep it so.
-/

/-- How many gestures are active. -/
def activeCount (hub : PointerHub β) : Nat :=
  hub.gestures.countP Gesture.active

/-- An active gesture has one listener to each event, any other has none. -/
structure ListensExactly (hub : PointerHub β) : Prop where
  active :
    ∀ place,
      hub.IsActive place →
        hub.moveListeners.count place = 1 ∧ hub.upListeners.count place = 1
  inactive :
    ∀ place,
      ¬ hub.IsActive place →
        hub.moveListeners.count place = 0 ∧ hub.upListeners.count place = 0
  total : hub.listenerCount = 2 * hub.activeCount

instance (hub : PointerHub β) (place : Nat) : Decidable (hub.IsActive place) :=
  decidable_of_iff ((hub.gestures[place]?).any Gesture.active = true) (Option.any_eq_true ..)

/-!
## Who is active after an operation
-/

theorem isActive_make_iff
    {hub : PointerHub β}
    {gesture : Gesture β}
    {place : Nat} :
    (hub.make gesture).IsActive place ↔ hub.IsActive place := by
  constructor
  · exact isActive_make
  · rintro ⟨found, isFound, isActive⟩
    obtain ⟨old, -⟩ := List.getElem?_eq_some_iff.mp isFound
    exact ⟨found, (List.getElem?_append_left old).trans isFound, isActive⟩

theorem isActive_start_iff
    {hub : PointerHub β}
    {place other : Nat}
    (made : place < hub.gestures.length) :
    (hub.start place).IsActive other ↔ other = place ∨ hub.IsActive other := by
  constructor
  · intro active
    exact (isActive_mark active).imp And.left And.right
  · have marked : (hub.start place).gestures[other]? = _ := List.getElem?_modify ..
    rintro (rfl | ⟨found, isFound, isActive⟩)
    · rw [List.getElem?_eq_getElem made] at marked
      exact ⟨_, marked, by simp⟩
    · rw [isFound] at marked
      refine ⟨_, marked, ?_⟩
      dsimp only
      split
      · rfl
      · exact isActive

theorem isActive_release_iff
    {hub : PointerHub β}
    {place other : Nat} :
    (hub.release place).IsActive other ↔ other ≠ place ∧ hub.IsActive other := by
  constructor
  · intro active
    rcases isActive_mark active with ⟨-, never⟩ | kept
    · exact absurd never Bool.false_ne_true
    · exact kept
  · rintro ⟨different, found, isFound, isActive⟩
    have marked : (hub.release place).gestures[other]? = _ := List.getElem?_modify ..
    simp only [isFound, if_neg (Ne.symm different)] at marked
    exact ⟨found, marked, isActive⟩

/-!
## Listeners and active gestures
-/

/-- A gesture listens once to both events or to none, and exactly the active ones do. -/
structure IsMatched (hub : PointerHub β) : Prop where
  same : hub.moveListeners = hub.upListeners
  distinct : hub.upListeners.Nodup
  listens : ∀ place, place ∈ hub.upListeners ↔ hub.IsActive place

theorem IsMatched.make
    {hub : PointerHub β}
    (isMatched : hub.IsMatched)
    (gesture : Gesture β) :
    (hub.make gesture).IsMatched where
  same := isMatched.same
  distinct := isMatched.distinct
  listens := by
    intro place
    rw [isActive_make_iff]
    exact isMatched.listens place

theorem IsMatched.start
    {hub : PointerHub β}
    (isMatched : hub.IsMatched)
    {place : Nat}
    (made : place < hub.gestures.length)
    (idle : ¬ hub.IsActive place) :
    (hub.start place).IsMatched where
  same := congrArg (· ++ [place]) isMatched.same
  distinct := by
    have new : place ∉ hub.upListeners := fun listens => idle ((isMatched.listens place).mp listens)
    exact List.nodup_append.mpr
      ⟨isMatched.distinct, List.nodup_singleton place, by grind⟩
  listens := by
    intro other
    rw [isActive_start_iff made, ← isMatched.listens other]
    change other ∈ hub.upListeners ++ [place] ↔ _
    rw [List.mem_append, List.mem_singleton, or_comm]

theorem IsMatched.release
    {hub : PointerHub β}
    (isMatched : hub.IsMatched)
    (place : Nat) :
    (hub.release place).IsMatched where
  same := congrArg (List.erase · place) isMatched.same
  distinct := isMatched.distinct.erase place
  listens := by
    intro other
    rw [isActive_release_iff, ← isMatched.listens other]
    exact isMatched.distinct.mem_erase_iff

theorem isMatched_new : ({} : PointerHub β).IsMatched where
  same := rfl
  distinct := List.nodup_nil
  listens := by
    simp [IsActive]

/-- The active gestures are as many as the listeners to either event. -/
theorem IsMatched.length_upListeners
    {hub : PointerHub β}
    (isMatched : hub.IsMatched) :
    hub.upListeners.length = hub.activeCount := by
  let isActiveAt : Fin hub.gestures.length → Bool := Gesture.active ∘ hub.gestures.get
  let activePlaces := (List.finRange hub.gestures.length).filter isActiveAt
  have distinct : (activePlaces.map Fin.val).Nodup :=
    ((List.nodup_finRange _).filter isActiveAt).map Fin.val_injective
  have sameMembers (place : Nat) : place ∈ hub.upListeners ↔ place ∈ activePlaces.map Fin.val := by
    rw [isMatched.listens place, List.mem_map]
    constructor
    · rintro ⟨gesture, isFound, isActive⟩
      obtain ⟨made, isThere⟩ := List.getElem?_eq_some_iff.mp isFound
      refine ⟨⟨place, made⟩, List.mem_filter.mpr ⟨List.mem_finRange _, ?_⟩, rfl⟩
      exact (congrArg Gesture.active isThere).trans isActive
    · rintro ⟨index, isKept, rfl⟩
      exact ⟨_, List.getElem?_eq_getElem index.isLt, (List.mem_filter.mp isKept).2⟩
  calc
    hub.upListeners.length
    _ = (activePlaces.map Fin.val).length :=
      ((List.perm_ext_iff_of_nodup isMatched.distinct distinct).mpr sameMembers).length_eq
    _ = (List.finRange hub.gestures.length).countP isActiveAt := by
      rw [List.length_map, List.countP_eq_length_filter]
    _ = ((List.finRange hub.gestures.length).map hub.gestures.get).countP Gesture.active :=
      List.countP_map.symm
    _ = hub.activeCount := by
      rw [List.map_get_finRange, activeCount]

/-- On a matched hub exactly the active gestures listen, each once. -/
theorem IsMatched.listensExactly
    {hub : PointerHub β}
    (isMatched : hub.IsMatched) :
    hub.ListensExactly where
  active := by
    intro place active
    have once : hub.upListeners.count place = 1 :=
      List.count_eq_one_of_mem isMatched.distinct ((isMatched.listens place).mpr active)
    exact ⟨isMatched.same ▸ once, once⟩
  inactive := by
    intro place inactive
    have none : hub.upListeners.count place = 0 :=
      List.count_eq_zero_of_not_mem fun listens => inactive ((isMatched.listens place).mp listens)
    exact ⟨isMatched.same ▸ none, none⟩
  total := by
    rw [listenerCount, isMatched.same, isMatched.length_upListeners, Nat.two_mul]

end SceneEditor.PointerHub
