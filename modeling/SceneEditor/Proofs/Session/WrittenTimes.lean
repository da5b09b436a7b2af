import SceneEditor.Proofs.Session.Clamping
import SceneEditor.Proofs.Timeline.WrittenTimes

namespace SceneEditor

open Binary64 Numeral

/-!
# Clamped times on their way

A clip whose edge is moved keeps its shortest duration, but the update carries each of its times with
two places.  So the duration that the texts show may fall short of it by a hundredth.
-/

/-- The times are finite, the clip does not start before zero, and it is not too short. -/
structure Clip.IsLong (clip : Clip) : Prop where
  start : clip.startTime.isFinite = true
  stop : clip.endTime.isFinite = true
  notNegative : Num.le 0 (.real clip.startTime) = true
  long : (Num.real (clip.startTime.add Track.shortestDuration)).le (.real clip.endTime) = true

instance (clip : Clip) : Decidable clip.IsLong :=
  decidable_of_iff
    (clip.startTime.isFinite = true ∧ clip.endTime.isFinite = true ∧
      Num.le 0 (.real clip.startTime) = true ∧
      (Num.real (clip.startTime.add Track.shortestDuration)).le (.real clip.endTime) = true)
    ⟨fun ⟨start, stop, notNegative, long⟩ => ⟨start, stop, notNegative, long⟩,
      fun isLong => ⟨isLong.start, isLong.stop, isLong.notNegative, isLong.long⟩⟩

namespace Session

/--
In a run whose presses have finite positions each update of a clip whose edge is moved carries the times
with two places.  Where the clip was long enough, the texts are read as decimals that are a tenth apart,
unless the edge has come to its limit and a middle between two hundredths parts the times.
-/
theorem run_writesTimes
    (answer? : Option Bool)
    {settings : TimelineSettings}
    (accepted : settings.check = .ok settings)
    (isDefault : settings.shortest = .real Track.shortestDuration)
    {actions : List Action}
    (positions : ∀ action ∈ actions, action.HasFinitePositions)
    {x : Binary64}
    (ofX : x.isFinite = true) :
    let session := (fresh answer? settings).run actions
    let moved := session.pointerMove (.real x)
    moved.result = .ok () ∧
      moved.effects = sent ((session.timeline.answers (.real x)).map Prod.snd) ∧
      ∀ drag command,
        (drag, command) ∈ session.timeline.answers (.real x) → drag.grip ≠ .body →
          ∃ before since id down area clip name startTime endTime,
            actions = before ++ .onClip id (.beginDrag drag.grip down area) :: since ∧
              latestClip? ((fresh answer? settings).run before).world.clips id = some clip ∧
              command = .updateClip id name startTime endTime ∧
              command.wire =
                (Command.Shape.call "UpdateClip"
                  [id, name, startTime.fixedText 2, endTime.fixedText 2]).text ∧
              (clip.IsLong → drag.grip.IsWritten settings clip.span startTime endTime) := by
  intro session moved
  have passes : settings.Passes := (TimelineSettings.passes_of_check accepted).2
  obtain ⟨succeeds, sends⟩ := pointerMove_sends answer? passes positions x
  refine ⟨succeeds, sends, ?_⟩
  intro drag command answered resizes
  obtain ⟨before, since, id, down, area, clip, name, span, startTime, endTime, rfl, latest, times,
    starts, stops, rfl⟩ := exists_press_of_answer answer? answered
  refine ⟨before, since, id, down, area, clip, name, startTime, endTime, rfl, latest, rfl, rfl, ?_⟩
  intro isLong
  have arePositions := positions _ (List.mem_append_right before List.mem_cons_self)
  obtain ⟨down, rfl, ofDown⟩ := arePositions down List.mem_cons_self
  obtain ⟨area, rfl, ofArea⟩ := arePositions area (List.mem_cons_of_mem _ List.mem_cons_self)
  obtain ⟨newStart, newStop, newTimes, -, -, clamps⟩ :=
    drag.grip.timesAt_clamps passes isLong.start isLong.stop (fun isBody => absurd isBody resizes)
      ofDown ofArea ofX
  obtain rfl := Except.ok.inj (times.symm.trans newTimes)
  obtain rfl := Except.ok.inj starts
  obtain rfl := Except.ok.inj stops
  exact clamps.isWritten resizes isDefault isLong.start isLong.stop isLong.notNegative isLong.long

/-- A clip is made as short as it may be by its right edge; the texts are a tenth apart. -/
theorem run_writesTimes_shortest :
    let message : Message :=
      .text ("\x7b\"clips\": [\x7b\"id\": \"c1\", \"targetId\": 0, " ++
        "\"startTime\": 2, \"endTime\": 4\x7d]\x7d")
    let actions : List Action :=
      [.receive message, .onClip "c1" (.beginDrag .rightEdge (.real 1000) (.real 665))]
    let session := (fresh none {}).run actions
    ({} : TimelineSettings).check = .ok {} ∧
      ({} : TimelineSettings).shortest = .real Track.shortestDuration ∧
      (∀ action ∈ actions, action.HasFinitePositions) ∧
      (0 : Binary64).isFinite = true ∧
      (session.pointerMove (.real 0)).result = .ok () ∧
      ∃ clip ∈ latestClip? ((fresh none {}).run [.receive message]).world.clips "c1",
        clip.IsLong ∧
          Grip.rightEdge.IsWritten {} clip.span 2 (Binary64.ofDecimal false 21 (-1)) := by
  intro message actions session
  have accepted : ({} : TimelineSettings).check = .ok {} := by
    decide +kernel
  have positions : ∀ action ∈ actions, action.HasFinitePositions :=
    hasFinitePositions_press (by decide +kernel) (by decide +kernel)
  have finite : (0 : Binary64).isFinite = true := by
    decide +kernel
  obtain ⟨succeeds, -, writes⟩ := run_writesTimes none accepted rfl positions finite
  have answered : session.timeline.answers (.real 0) =
      [({ editor := 0, grip := .rightEdge, origin := { start := .real 2, stop := .real 4 } },
        .updateClip "c1" "Move p0" 2 (Binary64.ofDecimal false 21 (-1)))] := by
    decide +kernel
  obtain ⟨before, since, id, down, area, clip, name, startTime, endTime, split, latest, command, -,
    isWritten⟩ := writes _ _ (answered ▸ List.mem_singleton_self _) Grip.noConfusion
  obtain ⟨rfl, rfl, -, -⟩ := eq_of_press split
  obtain ⟨-, -, rfl, rfl⟩ := Command.updateClip.inj command
  have isLong : ∃ clip ∈ latestClip? ((fresh none {}).run [.receive message]).world.clips "c1",
      clip.IsLong := by
    decide +kernel
  obtain ⟨known, isKnown, isLong⟩ := isLong
  obtain rfl := Option.some.inj (latest.symm.trans isKnown)
  exact ⟨accepted, rfl, positions, finite, succeeds, clip, latest, isLong, isWritten isLong⟩

/--
A clip that ends between two hundredths is made shorter by its left edge.  It stays a tenth long, but the
update that is sent shows nine hundredths.
-/
theorem run_writesTimes_tooShort :
    let message : Message :=
      .text ("\x7b\"clips\": [\x7b\"id\": \"c1\", \"targetId\": 0, " ++
        "\"startTime\": 0, \"endTime\": 0.625\x7d]\x7d")
    let actions : List Action :=
      [.receive message, .onClip "c1" (.beginDrag .leftEdge (.real 0) (.real 665))]
    let session := (fresh none {}).run actions
    ({} : TimelineSettings).check = .ok {} ∧
      ({} : TimelineSettings).shortest = .real Track.shortestDuration ∧
      (∀ action ∈ actions, action.HasFinitePositions) ∧
      (300 : Binary64).isFinite = true ∧
      (∃ clip ∈ latestClip? ((fresh none {}).run [.receive message]).world.clips "c1", clip.IsLong) ∧
      (session.pointerMove (.real 300)).effects =
        [.published (Command.Shape.call "UpdateClip" ["c1", "Move p0", "0.53", "0.62"]).text] ∧
      hundredths? "0.53" = some 53 ∧ hundredths? "0.62" = some 62 ∧ ¬(10 : Int) ≤ 62 - 53 := by
  intro message actions session
  have positions : ∀ action ∈ actions, action.HasFinitePositions :=
    hasFinitePositions_press (by decide +kernel) (by decide +kernel)
  exact ⟨by decide +kernel, rfl, positions, by decide +kernel, by decide +kernel, by decide +kernel,
    by decide, by decide, by decide⟩

end Session

end SceneEditor
