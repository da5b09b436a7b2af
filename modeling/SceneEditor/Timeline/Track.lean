import SceneEditor.Number.Num

namespace SceneEditor.Track

/-!
# The track of the timeline

A track shows a span of seconds on a width of pixels.  A pointer that moves by some pixels moves a
clip by the corresponding seconds, and the three ways to move a clip keep it from starting
before zero and from getting too short.
-/

/-- The width left of the names of the rows unless settings say otherwise. -/
def defaultGutter : Binary64 := 65

/-- The shortest clip unless settings say otherwise. -/
def shortestDuration : Binary64 := Binary64.ofDecimal false 1 (-1)

/-- The two times of a clip. -/
structure Span where
  start : Num
  stop : Num
  deriving DecidableEq, Repr

/-- The width of the track in an area that also holds the names of the rows. -/
def width (area gutter : Num) : Except NumberError Num :=
  area.sub gutter

/-- The seconds that a distance on the track stands for; none on a track without a width. -/
def seconds (distance width maxTime : Num) : Except NumberError Num :=
  if width.le 0 then .ok (.real 0)
  else do (← distance.div width).mul maxTime

/-- Move the start, which stays at zero or later and early enough for the shortest duration. -/
def resizeLeft (span : Span) (delta shortest : Num) : Except NumberError Span := do
  let moved := (← span.start.add delta).max (.real 0)
  let latest ← span.stop.sub shortest
  return { span with start := (moved.min latest).max (.real 0) }

/-- Move the end, which stays late enough for the shortest duration. -/
def resizeRight (span : Span) (delta shortest : Num) : Except NumberError Span := do
  let moved ← span.stop.add delta
  let earliest ← span.start.add shortest
  return { span with stop := moved.max earliest }

/-- Move the whole clip, which keeps its duration and starts at zero or later. -/
def shift (span : Span) (delta : Num) : Except NumberError Span := do
  let duration ← span.stop.sub span.start
  let start := (← span.start.add delta).max (.real 0)
  return { start, stop := ← start.add duration }

/-- The part of the whole time that a time is, in percent. -/
def percent (time maxTime : Num) : Except NumberError Num :=
  if maxTime.le 0 then .ok (.real 0)
  else do (← time.div maxTime).mul (.real 100)

/-- A time in seconds, as it is shown. -/
def secondsText (time : Num) : Except NumberError String := do
  return (← time.fixedText 2) ++ "s"

end SceneEditor.Track
