import Captioning.Segment.Basic
import Captioning.Text.Payload
import Captioning.Video.Frame

/-!
# What inputs deliver

An input delivers items, data with a timestamp and a duration, each of which may be unknown, and
between them events that concern the stream as a whole.
-/

namespace Captioning

/-- Data with its time. -/
structure StreamItem (α : Type) where
  /-- The timestamp. -/
  pts : Option ClockTime
  duration : Option ClockTime
  payload : α
  deriving DecidableEq

namespace StreamItem

variable {α β : Type}

/-- The timestamp of the end, when timestamp and duration are known and their sum is a clock
time. -/
def stop (item : StreamItem α) : Option ClockTime :=
  match item.pts, item.duration with
  | some pts, some duration => ClockTime.add? pts duration
  | _, _ => none

/-- Whether the end is known. -/
def isTimed (item : StreamItem α) : Bool :=
  item.stop.isSome

/-- The item with other data at the same time. -/
def map (f : α → β) (item : StreamItem α) : StreamItem β :=
  ⟨item.pts, item.duration, f item.payload⟩

end StreamItem

/-- A caption of the text input. -/
abbrev TextItem := StreamItem TextPayload

/-- A frame of the video input. -/
abbrev VideoItem := StreamItem VideoFrame

/-- A control event of an input. -/
inductive StreamEvent where
  /-- A new segment begins. -/
  | segment (s : Segment)
  /-- No data comes until the end of the gap. -/
  | gap (start : ClockTime) (duration : Option ClockTime)
  /-- Data is thrown away from now on. -/
  | flushStart
  /-- Data is taken again. -/
  | flushStop
  /-- No data comes any more. -/
  | eos

namespace StreamEvent

/-- The event in one line. -/
def render : StreamEvent → String
  | segment s => s.render
  | gap start duration =>
      "gap(start=" ++ ClockTime.render (some start) ++ " duration=" ++
        ClockTime.render duration ++ ")"
  | flushStart => "flush-start"
  | flushStop => "flush-stop"
  | eos => "eos"

/-- The end of a gap, or the last clock time when the end lies past it. -/
def gapStop (start : ClockTime) (duration : Option ClockTime) : ClockTime :=
  match duration with
  | some d => ClockTime.addSaturating start d
  | none => start

end StreamEvent

end Captioning
