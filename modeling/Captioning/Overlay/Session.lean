import Captioning.Overlay.Scheduling

/-!
# Sessions

An overlay is used from two sides at once: one delivers frames, the other captions.  At most one
frame and one caption are on their way at a time.  A frame waits for a caption, a caption waits
until no other one is pending; who waits looks again whenever something wakes it.  A session is
an overlay with the calls that wait, and each step runs until nothing moves any more.
-/

namespace Captioning

/-- An overlay and the calls that wait. -/
structure Session where
  overlay : Overlay
  /-- The frame that waits for a caption. -/
  frame : Option FrameCall
  /-- The caption that waits until no other one is pending. -/
  text : Option TextItem

/-- What is done to a session. -/
inductive Step where
  | frame (item : VideoItem)
  | text (item : TextItem)
  | videoEvent (event : StreamEvent)
  | textEvent (event : StreamEvent)
  | transit (transition : Transition)
  | connect (on : Bool)
  | attach (on : Bool)
  | configure (config : Config)
  | provide (provider : TextProvider)

/-- The immediate answer to a step. -/
inductive Reply where
  | done
  /-- Another call of the same kind is still on its way. -/
  | busy
  /-- Whether a configuration was taken. -/
  | configured (result : Except CaptionError Unit)

/-- The answer to a step: besides the reply the results of the calls that came to their end,
whether they began in this step or before. -/
structure Report where
  reply : Reply
  video : Option FrameResult
  text : Option TextResult

namespace Session

/-- A new overlay, and no calls. -/
def initial : Session :=
  ⟨.initial, none, none⟩

/-- Lets the waiting caption look again.  A flush turns it away; otherwise it is stored if no
other one is pending. -/
def wakeText (s : Session) : Session × Option TextResult :=
  match s.text with
  | none => (s, none)
  | some item =>
      if s.overlay.flow.textFlushing then ({ s with text := none }, some (.error .flushing))
      else if s.overlay.slot.isSome then (s, none)
      else ({ s with overlay := s.overlay.store item, text := none }, some (.ok ()))

/-- Lets the waiting frame look again. -/
def wakeFrame (s : Session) (rasterizer : Rasterizer) : Session × Option FrameResult :=
  match s.frame with
  | none => (s, none)
  | some call =>
      match s.overlay.proceed rasterizer call with
      | (o, _, some result) => ({ s with overlay := o, frame := none }, some result)
      | (o, _, none) => ({ s with overlay := o }, none)

/-- Lets those who wait look again, until nothing moves: first the caption, which may become
pending, then the frame. -/
def settle (s : Session) (rasterizer : Rasterizer) :
    Session × Option FrameResult × Option TextResult :=
  let (stored, text) := s.wakeText
  let (looked, video) := stored.wakeFrame rasterizer
  (looked, video, text)

/-- Ends a step: those who wait look again if there is a signal.  The results are those of the
step itself and of the calls that came to their end. -/
def conclude (s : Session) (rasterizer : Rasterizer) (signal : Signal) (reply : Reply)
    (video : Option FrameResult) (text : Option TextResult) : Session × Report :=
  match signal with
  | .quiet => (s, ⟨reply, video, text⟩)
  | .wake =>
      let (settled, video', text') := s.settle rasterizer
      (settled, ⟨reply, video.or video', text.or text'⟩)

/-- The first part of a step, before those who wait look again: what is left, whether they look
again, and the report so far. -/
def enter (s : Session) (rasterizer : Rasterizer) : Step → Session × Signal × Report
  | .frame item =>
      if s.frame.isSome then (s, .quiet, ⟨.busy, none, none⟩)
      else
        match s.overlay.schedule rasterizer item with
        | (o, signal, .done result) =>
            ({ s with overlay := o }, signal, ⟨.done, some result, none⟩)
        | (o, signal, .waits call) =>
            ({ s with overlay := o, frame := some call }, signal, ⟨.done, none, none⟩)
  | .text item =>
      if s.text.isSome then (s, .quiet, ⟨.busy, none, none⟩)
      else
        match s.overlay.admitText item with
        | .error error => (s, .quiet, ⟨.done, none, some (.error error)⟩)
        | .ok none => (s, .quiet, ⟨.done, none, some (.ok ())⟩)
        | .ok (some part) =>
            if s.overlay.slot.isSome then
              ({ s with text := some part }, .quiet, ⟨.done, none, none⟩)
            else
              ({ s with overlay := s.overlay.store part }, .wake, ⟨.done, none, some (.ok ())⟩)
  | .videoEvent event =>
      ({ s with overlay := (s.overlay.videoEvent event).1 }, (s.overlay.videoEvent event).2,
        ⟨.done, none, none⟩)
  | .textEvent event =>
      ({ s with overlay := (s.overlay.textEvent event).1 }, (s.overlay.textEvent event).2,
        ⟨.done, none, none⟩)
  | .transit transition =>
      ({ s with overlay := (s.overlay.transit transition).1 },
        (s.overlay.transit transition).2, ⟨.done, none, none⟩)
  | .connect on =>
      ({ s with overlay := (s.overlay.connect on).1 }, .wake, ⟨.done, none, none⟩)
  | .attach on =>
      ({ s with overlay := s.overlay.setAttach on }, .quiet, ⟨.done, none, none⟩)
  | .configure config =>
      ({ s with overlay := (s.overlay.configure config).1 }, .quiet,
        ⟨.configured (s.overlay.configure config).2, none, none⟩)
  | .provide provider =>
      ({ s with overlay := s.overlay.provide provider }, .quiet, ⟨.done, none, none⟩)

/-- One step: it does what is asked for, and then those who wait look again. -/
def step (s : Session) (rasterizer : Rasterizer) (step : Step) : Session × Report :=
  let (entered, signal, report) := s.enter rasterizer step
  entered.conclude rasterizer signal report.reply report.video report.text

/-- Steps one after the other, and the answer to each. -/
def run (s : Session) (rasterizer : Rasterizer) : List Step → Session × List Report
  | [] => (s, [])
  | step :: steps =>
      let (next, report) := s.step rasterizer step
      let (last, reports) := next.run rasterizer steps
      (last, report :: reports)

/-- A session with a given configuration. -/
def withConfig (config : Config) : Except CaptionError Session :=
  match Overlay.initial.configure config with
  | (o, .ok ()) => .ok ⟨o, none, none⟩
  | (_, .error e) => .error e

end Session

end Captioning
