import SceneEditor.Timeline.Track

namespace SceneEditor

/-!
# Settings of the timeline

The settings are checked when they are made: the track shows a positive span of seconds, the gutter
is not negative, and the shortest clip lasts at least a tenth of a second and less than the span.
-/

/-- The span of the track in seconds, the gutter in pixels, and the shortest duration. -/
structure TimelineSettings where
  maxTime : Num := .real 60
  gutter : Num := .real Track.defaultGutter
  shortest : Num := .real Track.shortestDuration
  deriving DecidableEq, Repr

/-- Why settings are refused. -/
inductive TimelineSettingsError where
  | maxTime (value : Num)
  | gutter (value : Num)
  | shortest (value : Num)
  | number (error : NumberError)
  deriving DecidableEq, Repr

/-- The wording of an error. -/
def TimelineSettingsError.message : TimelineSettingsError → String
  | maxTime value => "timeline.max_time must be positive, got " ++ value.text
  | gutter value => "timeline.label_gutter_px must not be negative, got " ++ value.text
  | shortest value =>
      "timeline.min_clip_duration must be at least 0.1 and below max_time, got " ++ value.text
  | number error => error.message

namespace TimelineSettings

/-- The number is finite; an integer must not be too large for a floating-point number. -/
def isFinite (value : Num) : Except NumberError Bool := do
  return (← value.toReal).isFinite

/-- The settings, if they make sense, or the first error in them. -/
def check (settings : TimelineSettings) : Except TimelineSettingsError TimelineSettings := do
  let finiteTime ← (isFinite settings.maxTime).mapError .number
  if !finiteTime || settings.maxTime.le 0 then throw (.maxTime settings.maxTime)
  let finiteGutter ← (isFinite settings.gutter).mapError .number
  if !finiteGutter || settings.gutter.lt 0 then throw (.gutter settings.gutter)
  let least := Num.real Track.shortestDuration
  if least.le settings.shortest && settings.shortest.lt settings.maxTime then
    return settings
  else
    throw (.shortest settings.shortest)

end TimelineSettings

end SceneEditor
