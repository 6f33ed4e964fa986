import Captioning.Overlay.Basic

/-!
# Pairing frames with captions

Frames and captions are compared by the intervals of running time that they cover.  A frame
looks at the pending caption: one that ended before the frame is let go, one that begins after
it stays for a later frame, and one that overlaps is shown.  Without a pending caption the frame
waits, unless no caption for it can come any more.
-/

namespace Captioning

/-- An interval of running time: from `start` up to but not including `stop`. -/
structure TimeSpan where
  start : ClockTime
  stop : ClockTime
  deriving DecidableEq

/-- The interval between two times. -/
def TimeSpan.ofEnds (a b : ClockTime) : TimeSpan :=
  ⟨min a b, max a b⟩

/-- How a caption lies to a frame. -/
inductive Overlap where
  /-- The interval of the caption is unknown: it belongs to this frame alone. -/
  | untimed
  /-- The caption has ended when the frame begins. -/
  | stale
  /-- The caption begins when the frame has ended, or later. -/
  | future
  /-- Both overlap; the caption is consumed if it ends no later than the frame. -/
  | current (consumed : Bool)
  deriving DecidableEq

/-- How a caption lies to a frame. -/
def classify (caption : Option TimeSpan) (frame : TimeSpan) : Overlap :=
  match caption with
  | none => .untimed
  | some text =>
      if text.stop ≤ frame.start then .stale
      else if frame.stop ≤ text.start then .future
      else .current (text.stop ≤ frame.stop)

/-- The interval that an item covers in a segment, if both of its ends have a running time. -/
def Segment.span? {α : Type} (s : Segment) (item : StreamItem α) : Option TimeSpan := do
  let start ← s.runningTime (← item.pts)
  let stop ← s.runningTime (← item.stop)
  return .ofEnds start stop

/-- What is done with a frame. -/
inductive Decision where
  | passthrough
  /-- The text is shown; if it is consumed, the pending caption leaves. -/
  | overlay (text : List Char) (consume : Bool)
  deriving DecidableEq

/-- What a frame finds. -/
inductive Verdict where
  /-- The video input takes no data. -/
  | refused (error : CaptionError)
  | decided (decision : Decision)
  /-- The frame has to wait for a caption. -/
  | waiting
  deriving DecidableEq

namespace Overlay

/-- Whether no caption for a frame that ends at `stop` can come any more, or none is waited
for. -/
def isTextPast (o : Overlay) (stop : ClockTime) : Bool :=
  o.flow.textEnded || !o.flow.textConnected || !o.config.waitText ||
    o.textSegment.startRunningTime.any (stop ≤ ·) ||
    o.textSegment.positionRunningTime.any (stop ≤ ·)

/-- What a frame that ends at `stop` finds when no caption is pending. -/
def verdictAlone (o : Overlay) (stop : ClockTime) : Verdict :=
  if o.isTextPast stop then .decided .passthrough else .waiting

/-- What a frame finds when it looks at the pending caption.  A stale caption leaves, and then
none is pending. -/
def lookAt (o : Overlay) (span : TimeSpan) : Overlay × Signal × Verdict :=
  match o.flow.videoFault? with
  | some error => (o, .quiet, .refused error)
  | none =>
      match o.slot with
      | none => (o, .quiet, o.verdictAlone span.stop)
      | some item =>
          match classify (o.textSegment.span? item) span with
          | .stale => (o.release, .wake, o.release.verdictAlone span.stop)
          | .future => (o, .quiet, .decided .passthrough)
          | .untimed => (o, .quiet, .decided (.overlay item.payload.prepare true))
          | .current consumed =>
              (o, .quiet, .decided (.overlay item.payload.prepare consumed))

end Overlay

end Captioning
