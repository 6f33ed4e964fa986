import Captioning.Compositing.Outcome
import Captioning.Overlay.Pairing

/-!
# Scheduling

How an overlay treats one frame and one caption.  A frame is cut to the video segment, decided
upon, and composited.  A caption is cut to the text segment and then stored, as soon as no other
one is pending.
-/

namespace Captioning

/-- A frame that leaves the overlay. -/
structure ScheduledFrame where
  item : VideoItem
  outcome : Outcome
  deriving DecidableEq

/-- Whether a frame carries text. -/
def ScheduledFrame.isOverlaid (f : ScheduledFrame) : Bool :=
  f.outcome ≠ .passthrough

/-- The result of scheduling a frame; `none` when the frame is dropped. -/
abbrev FrameResult := Except CaptionError (Option ScheduledFrame)

/-- The result of delivering a caption. -/
abbrev TextResult := Except CaptionError Unit

/-- A frame that has been admitted: the part of it that lies in the video segment, the running
time that it covers, and the configuration at the time of its admission. -/
structure FrameCall where
  item : VideoItem
  start : ClockTime
  span : TimeSpan
  config : Config

/-- What becomes of a frame at its arrival. -/
inductive Admission where
  /-- It has no timestamp, or lies outside of the video segment. -/
  | dropped
  /-- The video input takes no data. -/
  | refused (error : CaptionError)
  /-- It has no running time and passes. -/
  | unclocked (item : VideoItem) (start : ClockTime)
  | admitted (call : FrameCall)

/-- Where a frame has come to: its result, or its wait for a caption. -/
inductive Progress where
  | done (result : FrameResult)
  | waits (call : FrameCall)

/-- The signal of two changes, one after the other. -/
def Signal.both : Signal → Signal → Signal
  | .quiet, signal => signal
  | .wake, _ => .wake

namespace Overlay

/-! ## Frames -/

section Times

variable {α : Type}

/-- The part of a frame between two ends.  An unknown duration stays unknown. -/
def cutFrame (item : StreamItem α) (start : ClockTime) (stop : Option ClockTime) : StreamItem α :=
  { item with
    pts := some start
    duration := match item.duration, stop with
      | some _, some t => some (t - start)
      | duration, _ => duration }

/-- The timestamp at which a frame ends that begins at `start`.  A frame whose end is unknown lasts
as long as the frame rate says, or one nanosecond; then its end may be no clock time. -/
def frameStop? (segment : Segment) (info : VideoInfo) (item : StreamItem α) (start : ClockTime) :
    Option ClockTime :=
  let stop? :=
    match item.stop with
    | some stop => some stop
    | none => ClockTime.add? start (info.frameDuration.getD 1)
  match segment.stop with
  | some last => stop?.map (min · last)
  | none => stop?

/-- The running time that a frame of a given description covers. -/
def spanOf? (segment : Segment) (info : VideoInfo) (item : StreamItem α) (start : ClockTime) :
    Option TimeSpan := do
  let a ← segment.runningTime start
  let b ← segment.runningTime (← frameStop? segment info item start)
  return .ofEnds a b

/-- The part of a frame that lies in a segment, and where it begins.  A frame of unknown
duration must begin in the segment. -/
def clipFrame? (segment : Segment) (item : StreamItem α) (pts : ClockTime) :
    Option (StreamItem α × ClockTime) :=
  if item.duration.isNone && pts < segment.start then none
  else (segment.clip (some pts) item.stop).map fun (start, stop) =>
    (cutFrame item (start.getD pts) stop, start.getD pts)

end Times

/-- The running time that a frame covers. -/
def frameSpan? (segment : Segment) (item : VideoItem) (start : ClockTime) : Option TimeSpan :=
  spanOf? segment item.payload.info item start

/-- What becomes of a frame at its arrival. -/
def admitFrame (o : Overlay) (item : VideoItem) : Admission :=
  match item.pts with
  | none => .dropped
  | some pts =>
      match o.flow.videoFault? with
      | some error => .refused error
      | none =>
          match clipFrame? o.videoSegment item pts with
          | none => .dropped
          | some (part, start) =>
              match frameSpan? o.videoSegment part start with
              | none => .unclocked part start
              | some span => .admitted ⟨part, start, span, o.config⟩

/-- Notes that the video has come to `start`. -/
def reach (o : Overlay) (start : ClockTime) : Overlay :=
  { o with videoSegment := o.videoSegment.moveTo start }

/-- The image of a text and its place on a frame, unless the text cannot be rendered. -/
def composeText (o : Overlay) (rasterizer : Rasterizer) (text : List Char) (info : VideoInfo) :
    Overlay × Option Composition :=
  let style := o.config.textStyle info.width info.height true
  let (cache, result) := o.cache.render rasterizer text style
  let composition :=
    match result with
    | .ok image =>
        let (x, y) := o.config.layout.place image.raster.width image.raster.height
          image.raster.baseline info.width info.height
        some ⟨image, x, y⟩
    | .error _ => none
  ({ o with cache := cache }, composition)

/-- How strongly the box behind a text is darkened, if at all. -/
def shading (config : Config) : Option UInt8 :=
  if config.shadedBackground then some config.shadingValue else none

/-- A frame with an image on it, if there is one. -/
def compose (call : FrameCall) (attach : Bool) : Option Composition → ScheduledFrame
  | none => ⟨call.item, .passthrough⟩
  | some c =>
      let (frame, outcome) := call.item.payload.composite c attach (shading call.config)
      ⟨{ call.item with payload := frame }, outcome⟩

/-- What becomes of a frame that is decided upon. -/
def finish (o : Overlay) (rasterizer : Rasterizer) (call : FrameCall) :
    Decision → Overlay × Signal × ScheduledFrame
  | .passthrough => (o.reach call.start, .quiet, ⟨call.item, .passthrough⟩)
  | .overlay text consume =>
      let (rendered, composition) := o.composeText rasterizer text call.item.payload.info
      let left := if consume then rendered.release else rendered
      (left.reach call.start, if consume then .wake else .quiet,
        compose call o.attach composition)

/-- Lets a frame look at the pending caption, and finishes it unless it has to wait. -/
def proceed (o : Overlay) (rasterizer : Rasterizer) (call : FrameCall) :
    Overlay × Signal × Option FrameResult :=
  let (seen, signal, verdict) := o.lookAt call.span
  match verdict with
  | .refused error => (seen, signal, some (.error error))
  | .waiting => (seen, signal, none)
  | .decided decision =>
      let (done, signal', frame) := seen.finish rasterizer call decision
      (done, Signal.both signal signal', some (.ok (some frame)))

/-- What is done with a frame that begins at a given time, under a given configuration, without
asking the text input; `none` if that has to be asked. -/
def providedDecision? (o : Overlay) (config : Config) (start running : ClockTime) :
    Option Decision :=
  if config.silent then some .passthrough
  else if o.flow.textConnected then none
  else
    let text := o.provider.text start (some running) config
    some (if text.isEmpty then .passthrough else .overlay text false)

/-- What is done with a frame without asking the text input, if it need not be asked. -/
def decisionAlone? (o : Overlay) (call : FrameCall) : Option Decision :=
  o.providedDecision? call.config call.start call.span.start

/-- Takes a frame as far as it comes. -/
def schedule (o : Overlay) (rasterizer : Rasterizer) (item : VideoItem) :
    Overlay × Signal × Progress :=
  match o.admitFrame item with
  | .dropped => (o, .quiet, .done (.ok none))
  | .refused error => (o, .quiet, .done (.error error))
  | .unclocked part start => (o.reach start, .quiet, .done (.ok (some ⟨part, .passthrough⟩)))
  | .admitted call =>
      match o.decisionAlone? call with
      | some decision =>
          let (done, signal, frame) := o.finish rasterizer call decision
          (done, signal, .done (.ok (some frame)))
      | none =>
          match o.proceed rasterizer call with
          | (seen, signal, some result) => (seen, signal, .done result)
          | (seen, signal, none) => (seen, signal, .waits call)

/-! ## Captions -/

/-- The part of a caption between two ends. -/
def cutText (item : TextItem) (start : ClockTime) (stop : Option ClockTime) : TextItem :=
  { item with
    pts := some start
    duration := if item.duration.isSome then stop.map (· - start) else none }

/-- The part of a caption that is to be stored; `none` when it lies outside of the text
segment.  A caption without a timestamp is taken as it is. -/
def admitText (o : Overlay) (item : TextItem) : Except CaptionError (Option TextItem) :=
  match o.flow.textFault? with
  | some error => .error error
  | none =>
      match item.pts with
      | none => .ok (some item)
      | some pts =>
          .ok ((o.textSegment.clip (some pts) item.stop).map fun (start, stop) =>
            cutText item (start.getD pts) stop)

/-- Stores a caption.  The text has come to its timestamp, and the image of the current text is
stale. -/
def store (o : Overlay) (item : TextItem) : Overlay :=
  { o with
    textSegment := match item.pts with
      | some pts => o.textSegment.advance pts
      | none => o.textSegment
    slot := some item
    cache := o.cache.invalidate }

end Overlay

end Captioning
