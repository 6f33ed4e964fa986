import Captioning.ClockTime
import Captioning.Decimal.Numeral

/-!
# Segments

A segment is the playable part of a stream together with its current position.  It maps the
timestamps of its stream to running time, the clock that both inputs share.
-/

namespace Captioning

/-- The unit of a segment. -/
inductive SegmentFormat where
  /-- There is no usable segment, as when the input is detached. -/
  | undefined
  /-- The bounds are clock times. -/
  | time
  deriving DecidableEq

/-- The playable part of a stream. -/
structure Segment where
  format : SegmentFormat
  /-- The first playable timestamp. -/
  start : ClockTime
  /-- The last playable timestamp, when the segment has an end. -/
  stop : Option ClockTime
  /-- The last known position. -/
  position : ClockTime
  /-- The playback rate; a negative rate plays backwards. -/
  rate : Float
  /-- The running time that has passed before the segment. -/
  base : ClockTime

namespace Segment

/-- From zero on without end, at normal speed. -/
def whole : Segment where
  format := .time
  start := 0
  stop := none
  position := 0
  rate := 1.0
  base := 0

/-- The segment of a detached input. -/
def detached : Segment :=
  { whole with format := .undefined }

/-- From `start` to `stop` at normal speed. -/
def between (start : ClockTime) (stop : Option ClockTime) : Segment :=
  { whole with start := start, stop := stop, position := start }

/-- The segment played at another rate. -/
def withRate (s : Segment) (rate : Float) : Segment :=
  { s with rate := rate }

/-- The segment with running time passed before it. -/
def withBase (s : Segment) (base : ClockTime) : Segment :=
  { s with base := base }

/-- Whether the bounds are clock times. -/
def isTime (s : Segment) : Bool :=
  s.format = .time

/-- Whether the rate is finite and not zero, the bounds are in order, and a segment that is
played backwards has an end. -/
def isValid (s : Segment) : Bool :=
  s.rate.isFinite && s.rate != 0.0 && s.stop.all (s.start ≤ ·) && (s.rate > 0.0 || s.stop.isSome)

/-! ## Clipping -/

/-- Whether an interval that begins at `start` lies past the end of the segment.  A segment of
length zero still holds its one instant. -/
def endsBefore (s : Segment) (start : ClockTime) : Bool :=
  s.stop.any fun stop => stop < start || (s.start != stop && start = stop)

/-- Whether an interval that ends at `stop` lies before the segment.  An interval of length
zero still holds its one instant. -/
def startsAfter (s : Segment) (start : Option ClockTime) (stop : ClockTime) : Bool :=
  stop < s.start || (start != some stop && stop = s.start)

/-- The lesser of two ends, of which each may be open. -/
def earlierStop : Option ClockTime → Option ClockTime → Option ClockTime
  | none, b => b
  | some a, none => some a
  | some a, some b => some (min a b)

/-- The part of the interval from `start` to `stop` that lies in the segment, if there is one.
An unknown start stays unknown; an unknown stop becomes that of the segment. -/
def clip (s : Segment) (start stop : Option ClockTime) :
    Option (Option ClockTime × Option ClockTime) :=
  if !s.isTime || start.any s.endsBefore || stop.any (s.startsAfter start) then none
  else some (start.map (max · s.start), earlierStop stop s.stop)

/-! ## Running time -/

/-- The length of a stretch of the stream when it is played at the rate of the segment. -/
def played (s : Segment) (offset : Nat) : Nat :=
  let speed := s.rate.abs
  if speed == 1.0 then offset
  else truncateNat (ClockTime.limit - 1) (countToFloat offset / speed)

/-- How far `t` lies from the end of the segment that is played first. -/
def offset? (s : Segment) (t : ClockTime) : Option Nat :=
  if s.rate > 0.0 then some (t - s.start) else s.stop.map (· - t)

/-- Whether `t` lies between the bounds, both included. -/
def covers (s : Segment) (t : ClockTime) : Bool :=
  s.isTime && s.start ≤ t && s.stop.all (t ≤ ·)

/-- The running time of a timestamp.  Timestamps outside the segment have none. -/
def runningTime (s : Segment) (t : ClockTime) : Option ClockTime :=
  if s.covers t then (s.offset? t).bind fun offset => ClockTime.add? (s.played offset) s.base
  else none

/-- The running time of the first timestamp. -/
def startRunningTime (s : Segment) : Option ClockTime :=
  s.runningTime s.start

/-- The running time of the position. -/
def positionRunningTime (s : Segment) : Option ClockTime :=
  s.runningTime s.position

/-! ## Changes -/

/-- Whether a segment may become the active one. -/
def isUsable (s : Segment) : Bool :=
  s.isTime && s.isValid

/-- The active segment after `new` was announced: `new` if it is usable. -/
def adopt (s new : Segment) : Segment :=
  if new.isUsable then new else s

/-- Moves the position forward to `position`, never backwards. -/
def advance (s : Segment) (position : ClockTime) : Segment :=
  { s with position := max s.position position }

/-- Moves the position to `position`. -/
def moveTo (s : Segment) (position : ClockTime) : Segment :=
  { s with position := position }

/-! ## Text -/

/-- Rates are written in full without an exponent. -/
def rateLayout : Decimal.NumeralLayout where
  tie := .up
  leastPoint := none
  greatestPoint := none
  pointZero := false

/-- The text of a rate. -/
def renderRate (rate : Float) : String :=
  match rateLayout.numeral? rate with
  | some n => n.render
  | none => if rate.isNaN then "NaN" else if rate > 0.0 then "inf" else "-inf"

/-- The name of a unit in messages. -/
def formatTitle : SegmentFormat → String
  | .undefined => "Undefined"
  | .time => "Time"

/-- The segment in one line. -/
def render (s : Segment) : String :=
  "segment(" ++ formatTitle s.format ++ " start=" ++ ClockTime.render (some s.start) ++
    " stop=" ++ ClockTime.render s.stop ++ " position=" ++ ClockTime.render (some s.position) ++
    " rate=" ++ renderRate s.rate ++ " base=" ++ ClockTime.render (some s.base) ++ ")"

end Segment

end Captioning
