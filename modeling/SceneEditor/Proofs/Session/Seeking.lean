import SceneEditor.Proofs.Number.Order
import SceneEditor.Proofs.Session.Run
import SceneEditor.Proofs.Session.Success
import SceneEditor.Proofs.Timeline.Arithmetic

namespace SceneEditor

/-!
# Seeking a time

A time that is sought is clamped to the track, sent as a command and shown at once.  The clamp is made
of comparisons, each of which is false for what is not a number.
-/

/-- A time that is sought and the time that is shown for it are one and the same time of the track. -/
structure TimelineSettings.OnTrack
    (settings : TimelineSettings)
    (target : Num)
    (shown : Binary64) :
    Prop where
  same : target.equals (.real shown) = true
  notBefore : Num.le 0 target = true
  notAfter : target.le settings.maxTime = true

namespace Timeline

/-- A number is clamped to the track. -/
theorem place?_clampTime
    {timeline : Timeline}
    {time : Binary64}
    {place span : Num.Line}
    (ofTime : (Num.real time).place? = some place)
    (ofSpan : timeline.settings.maxTime.place? = some span) :
    (timeline.clampTime time).place? = some ((place ⊔ .ofUnits 0) ⊓ span) :=
  Num.place?_min (Num.place?_max ofTime Num.place?_real_zero) ofSpan

/-- A time that is not a number stays what it is. -/
theorem clampTime_nan (timeline : Timeline) :
    timeline.clampTime .nan = .real .nan := by
  have notLarger : (Num.real .nan).lt (.real 0) = false := rfl
  have notSmaller : timeline.settings.maxTime.lt (.real .nan) = false := by
    cases timeline.settings.maxTime with
    | int =>
        rfl
    | real value =>
        cases value <;> rfl
  rw [clampTime, Num.max, notLarger, Num.min]
  simp only [Bool.false_eq_true, if_false, notSmaller]

/-- Beyond the track its span is sought, and all else is sought as a floating-point number. -/
theorem clampTime_eq
    {timeline : Timeline}
    (passes : timeline.settings.Passes)
    {time : Binary64}
    {place : Num.Line}
    (ofTime : (Num.real time).place? = some place) :
    (timeline.settings.maxTime.lt (.real time) = true →
      timeline.clampTime time = timeline.settings.maxTime) ∧
    (timeline.settings.maxTime.lt (.real time) = false →
      ∃ real, timeline.clampTime time = .real real) := by
  obtain ⟨units, ofSpan, positive⟩ := passes.place?_maxTime
  have ofMax := Num.place?_max ofTime Num.place?_real_zero
  constructor
  · intro beyond
    have above := (Num.lt_iff_of_places ofSpan ofTime).mp beyond
    rw [clampTime, Num.min, if_pos]
    rw [Num.lt_iff_of_places ofSpan ofMax]
    exact lt_of_lt_of_le above le_sup_left
  · intro notBeyond
    have notAbove : ¬ .ofUnits units < place := by
      rw [← Num.lt_iff_of_places ofSpan ofTime, notBeyond]
      exact Bool.false_ne_true
    refine ⟨time.max 0, ?_⟩
    rw [clampTime, Num.min, if_neg, Num.max_real]
    rw [Num.lt_iff_of_places ofSpan ofMax, not_lt]
    exact sup_le (not_lt.mp notAbove) (Num.Line.ofUnits_le_ofUnits.mpr (Int.le_of_lt positive))

end Timeline

namespace Session

open Timeline in
/--
The time that is sought is the time that is shown, and lies on the track, exactly if a number is sought
and, where this number is beyond the track, the span of the track can be shown as it is.
-/
theorem seek_onTrack_iff
    {session : Session}
    (accepted : session.timeline.settings.check = .ok session.timeline.settings)
    (time : Binary64) :
    let settings := session.timeline.settings
    ∃ target shown span,
      settings.maxTime.toReal = .ok span ∧
        (session.seek time).result = .ok (.seek target) ∧
        (session.seek time).effects = [.published (Command.seek target).wire] ∧
        (session.seek time).session.world.currentTime = shown ∧
        (time = .nan → target = .real .nan ∧ shown = .nan) ∧
        (settings.OnTrack target shown ↔
          time ≠ .nan ∧
            (settings.maxTime.lt (.real time) = true →
              settings.maxTime.equals (.real span) = true)) := by
  intro settings
  have passes : settings.Passes := (TimelineSettings.passes_of_check accepted).2
  obtain ⟨span, ofMaxTime, -⟩ := TimelineSettings.exists_real_of_isFinite passes.maxTime
  obtain ⟨shown, isShown⟩ : ∃ shown, (session.timeline.clampTime time).toReal = .ok shown := by
    rcases session.timeline.clampTime_cases time with ⟨real, same⟩ | same
    · exact ⟨real, congrArg Num.toReal same⟩
    · exact ⟨span, (congrArg Num.toReal same).trans ofMaxTime⟩
  have sought : session.seek time = {
      result := .ok (.seek (session.timeline.clampTime time))
      session := session.showTime shown
      effects := sent [.seek (session.timeline.clampTime time)] } := by
    rw [seek, isShown]
  rw [sought]
  refine ⟨_, shown, span, ofMaxTime, rfl, rfl, rfl, ?_, ?_⟩
  · rintro rfl
    rw [clampTime_nan] at isShown ⊢
    exact ⟨rfl, (Except.ok.inj isShown).symm⟩
  by_cases isNan : time = .nan
  · -- it is clamped to itself, which equals nothing
    subst isNan
    rw [clampTime_nan] at isShown ⊢
    obtain rfl := Except.ok.inj isShown
    constructor
    · intro onTrack
      exact absurd onTrack.same Bool.false_ne_true
    · intro number
      exact absurd rfl number.1
  · obtain ⟨place, ofTime⟩ : ∃ place, (Num.real time).place? = some place := by
      rw [← Num.isNan_eq_false_iff]
      cases time with
      | nan =>
          exact absurd rfl isNan
      | infinity | finite =>
          rfl
    obtain ⟨limit, ofLimit, positive⟩ := passes.place?_maxTime
    have ofTarget := place?_clampTime ofTime ofLimit
    have notBefore := (Num.le_iff_of_places Num.place?_zero ofTarget).mpr
      (le_inf le_sup_right (Num.Line.ofUnits_le_ofUnits.mpr (Int.le_of_lt positive)))
    have notAfter := (Num.le_iff_of_places ofTarget ofLimit).mpr inf_le_right
    obtain ⟨beyond, within⟩ := clampTime_eq passes ofTime
    cases isBeyond : settings.maxTime.lt (.real time) with
    | true =>
        have isTarget := beyond isBeyond
        have isSpan : shown = span := by
          rw [isTarget] at isShown
          exact Except.ok.inj (isShown.symm.trans ofMaxTime)
        rw [isTarget] at notBefore notAfter ⊢
        rw [isSpan]
        exact ⟨fun onTrack => ⟨isNan, fun _ => onTrack.same⟩,
          fun both => ⟨both.2 rfl, notBefore, notAfter⟩⟩
    | false =>
        obtain ⟨real, isTarget⟩ := within isBeyond
        have isReal : shown = real := by
          rw [isTarget] at isShown
          exact (Except.ok.inj isShown).symm
        rw [isTarget] at ofTarget notBefore notAfter ⊢
        rw [isReal]
        have same := (Num.equals_iff_of_places ofTarget ofTarget).mpr rfl
        exact ⟨fun _ => ⟨isNan, fun never => absurd never Bool.false_ne_true⟩,
          fun _ => ⟨same, notBefore, notAfter⟩⟩

/-- A time beyond the track is sought at its end. -/
theorem seek_beyond_track :
    let session := fresh none {}
    session.timeline.settings.check = .ok session.timeline.settings ∧
      ∃ target shown,
        (session.seek 75).result = .ok (.seek target) ∧
          (session.seek 75).session.world.currentTime = shown ∧
          session.timeline.settings.OnTrack target shown := by
  intro session
  have accepted : session.timeline.settings.check = .ok session.timeline.settings := by
    decide +kernel
  obtain ⟨target, shown, span, ofSpan, sought, -, isShown, -, onTrack⟩ :=
    seek_onTrack_iff accepted 75
  have isSpan : (60 : Binary64) = span := Except.ok.inj ofSpan
  refine ⟨accepted, target, shown, sought, isShown, onTrack.mpr ⟨by decide +kernel, fun _ => ?_⟩⟩
  rw [← isSpan]
  decide +kernel

/-- The time that is typed as `nan` is sent and shown as it is. -/
theorem seek_nan_leaves_track :
    let session := fresh none {}
    session.timeline.settings.check = .ok session.timeline.settings ∧
      (session.seek .nan).effects = [.published "Seek(nan)"] ∧
      (session.seek .nan).session.world.currentTime = .nan ∧
      ¬ session.timeline.settings.OnTrack (.real .nan) .nan := by
  refine ⟨by decide +kernel, by decide +kernel, by decide +kernel, fun onTrack => ?_⟩
  exact absurd onTrack.same Bool.false_ne_true

end Session

end SceneEditor
