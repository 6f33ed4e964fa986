import Captioning.Overlay.Flow
import Captioning.Render.Cache
import Captioning.Stream
import Captioning.Text.Provider

/-!
# Overlays

An overlay merges a video input with a text input.  At most one caption is pending at a time:
the next one has to wait until the pending one has left.

Some changes wake those who wait.  Such functions return the overlay together with
`Signal.wake`.
-/

namespace Captioning

/-- Whether those who wait look again. -/
inductive Signal where
  | quiet
  | wake
  deriving DecidableEq

/-- Whether an overlay is stopped or running. -/
inductive PlayState where
  | ready
  | paused
  deriving DecidableEq

/-- A change between the two states. -/
inductive Transition where
  /-- To the running state: both inputs begin anew. -/
  | start
  /-- To the stopped state: both inputs are flushed. -/
  | halt
  deriving DecidableEq

/-- The state of an overlay. -/
structure Overlay where
  flow : Flow
  videoSegment : Segment
  textSegment : Segment
  /-- The pending caption. -/
  slot : Option TextItem
  cache : RenderCache
  config : Config
  provider : TextProvider
  /-- Whether images stay beside the frames. -/
  attach : Bool
  state : PlayState

namespace Overlay

/-- A new overlay. -/
def initial : Overlay where
  flow := .initial
  videoSegment := .whole
  textSegment := .whole
  slot := none
  cache := .empty
  config := .initial
  provider := .configured
  attach := false
  state := .ready

/-- The pending caption leaves. -/
def release (o : Overlay) : Overlay :=
  { o with slot := none }

/-- Makes the image of the current text stale. -/
def invalidate (o : Overlay) : Overlay :=
  { o with cache := o.cache.invalidate }

/-! ## Events -/

/-- What an event of the video input does.  A gap in the video means nothing. -/
def videoEvent (o : Overlay) : StreamEvent → Overlay × Signal
  | .segment s => ({ o with videoSegment := o.videoSegment.adopt s }, .quiet)
  | .gap _ _ => (o, .quiet)
  | .flushStart => ({ o with flow := { o.flow with videoFlushing := true } }, .wake)
  | .flushStop =>
      ({ o with
          flow := { o.flow with videoFlushing := false, videoEnded := false }
          videoSegment := .whole
          slot := none }, .wake)
  | .eos => ({ o with flow := { o.flow with videoEnded := true } }, .wake)

/-- What an event of the text input does.  A segment opens an ended input again, even if it
cannot be used. -/
def textEvent (o : Overlay) : StreamEvent → Overlay × Signal
  | .segment s =>
      ({ o with
          textSegment := o.textSegment.adopt s
          flow := { o.flow with textEnded := false } }, .wake)
  | .gap start duration =>
      ({ o with textSegment := o.textSegment.advance (StreamEvent.gapStop start duration) },
        .wake)
  | .flushStart => ({ o with flow := { o.flow with textFlushing := true } }, .wake)
  | .flushStop =>
      ({ o with
          flow := { o.flow with textFlushing := false, textEnded := false }
          textSegment := .whole
          slot := none }, .wake)
  | .eos => ({ o with flow := { o.flow with textEnded := true } }, .wake)

/-! ## Control -/

/-- The text segment of an input that has just been connected: an unusable one is replaced. -/
def connectedSegment (s : Segment) : Segment :=
  if s.isTime then s else .whole

/-- Connects or disconnects the text input. -/
def connect (o : Overlay) (on : Bool) : Overlay × Signal :=
  ({ o with
      flow := { o.flow with textConnected := on }
      textSegment := if on then connectedSegment o.textSegment else .detached
      cache := o.cache.invalidate }, .wake)

/-- Starts or halts the overlay.  A halt flushes both inputs, a start lets them begin anew. -/
def transit (o : Overlay) : Transition → Overlay × Signal
  | .start =>
      ({ o with
          flow := { Flow.initial with textConnected := o.flow.textConnected }
          videoSegment := .whole
          textSegment := .whole
          state := .paused }, .quiet)
  | .halt =>
      ({ o with
          flow := { o.flow with videoFlushing := true, textFlushing := true }
          slot := none
          state := .ready }, .wake)

/-- Replaces the configuration by a valid one.  The image is stale only if something changes. -/
def configure (o : Overlay) (config : Config) : Overlay × Except CaptionError Unit :=
  match config.check with
  | .ok () => (if o.config == config then o else { o with config := config }.invalidate, .ok ())
  | .error e => (o, .error e)

/-- Decides whether images stay beside the frames. -/
def setAttach (o : Overlay) (on : Bool) : Overlay :=
  { o with attach := on }

/-- Replaces the provider of texts. -/
def provide (o : Overlay) (provider : TextProvider) : Overlay :=
  { o with provider := provider }.invalidate

/-- The name of a state in messages. -/
def stateTitle : PlayState → String
  | .ready => "Ready"
  | .paused => "Paused"

/-- The overlay in one line. -/
def render (o : Overlay) : String :=
  "TextOverlay \x7b state: " ++ stateTitle o.state ++ ", flags: SyncFlags(" ++ o.flow.render ++
    "), pending_text: " ++ (if o.slot.isSome then "true" else "false") ++ " \x7d"

end Overlay

end Captioning
