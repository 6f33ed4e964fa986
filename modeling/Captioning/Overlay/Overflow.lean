import Captioning.Overlay.Session

/-!
# Overflows

Times and sizes have a fixed width.  A session is described with numbers of any size, and what it
does is what a program does as long as no number leaves its width.  This file says where one does:
the call that computes it stops there, without a result, and so does everything that follows from
it.  A step is attempted, and either overflows or is made.

Whether a frame overflows does not depend on its bytes, so that they need not be there.
-/

namespace Captioning

namespace Overlay

/-- What overflows when a text is shown on a frame of a given description, if anything does: the
size of its image, or a side of the frame if that is darkened behind the image. -/
def showingOverflow? (o : Overlay) (rasterizer : Rasterizer) (info : VideoInfo) (config : Config)
    (text : List Char) : Option Overflow :=
  match o.cache.overflow? rasterizer text (o.config.textStyle info.width info.height true) with
  | some overflow => some overflow
  | none =>
      (o.composeText rasterizer text info).2.bind fun c =>
        info.compositeOverflow? c.image.raster o.attach (shading config)

/-- What overflows when a frame is decided upon, if anything does. -/
def finishOverflow? (o : Overlay) (rasterizer : Rasterizer) (info : VideoInfo) (config : Config) :
    Decision → Option Overflow
  | .passthrough => none
  | .overlay text _ => o.showingOverflow? rasterizer info config text

/-- What overflows when a frame looks at the pending caption, if anything does. -/
def lookOverflow? (o : Overlay) (rasterizer : Rasterizer) (info : VideoInfo) (config : Config)
    (span : TimeSpan) : Option Overflow :=
  match o.lookAt span with
  | (seen, _, .decided decision) => seen.finishOverflow? rasterizer info config decision
  | _ => none

/-- What overflows when a frame arrives, if anything does: its end, or what its decision leads to.
The frame is given without its bytes. -/
def arrivalOverflow? (o : Overlay) (rasterizer : Rasterizer) (sketch : StreamItem VideoInfo) :
    Option Overflow :=
  match o.flow.videoFault?, sketch.pts.bind (clipFrame? o.videoSegment sketch) with
  | none, some (part, start) =>
      match frameStop? o.videoSegment part.payload part start with
      | none => some .frameStop
      | some _ =>
          (spanOf? o.videoSegment part.payload part start).bind fun span =>
            match o.providedDecision? o.config start span.start with
            | some decision => o.finishOverflow? rasterizer part.payload o.config decision
            | none => o.lookOverflow? rasterizer part.payload o.config span
  | _, _ => none

end Overlay

namespace Session

/-- What overflows when a frame arrives, if anything does.  A frame that meets another one on its
way is not looked at. -/
def arrivalOverflow? (s : Session) (rasterizer : Rasterizer) (sketch : StreamItem VideoInfo) :
    Option Overflow :=
  if s.frame.isSome then none else s.overlay.arrivalOverflow? rasterizer sketch

/-- What overflows when the waiting frame looks again, if anything does. -/
def wakeOverflow? (s : Session) (rasterizer : Rasterizer) : Option Overflow :=
  s.frame.bind fun call =>
    s.overlay.lookOverflow? rasterizer call.item.payload.info call.config call.span

/-- What overflows in the first part of a step, if anything does. -/
def entryOverflow? (s : Session) (rasterizer : Rasterizer) : Step → Option Overflow
  | .frame item => s.arrivalOverflow? rasterizer (item.map VideoFrame.info)
  | _ => none

/-- What overflows in a step, if anything does: in its first part, or when the frame looks again
after the caption has done so. -/
def overflow? (s : Session) (rasterizer : Rasterizer) (step : Step) : Option Overflow :=
  match s.entryOverflow? rasterizer step with
  | some overflow => some overflow
  | none =>
      match s.enter rasterizer step with
      | (_, .quiet, _) => none
      | (entered, .wake, _) => entered.wakeText.1.wakeOverflow? rasterizer

/-- One step, unless it overflows. -/
def attempt (s : Session) (rasterizer : Rasterizer) (step : Step) :
    Except Overflow (Session × Report) :=
  match s.overflow? rasterizer step with
  | some overflow => .error overflow
  | none => .ok (s.step rasterizer step)

/-- Steps one after the other, and the answer to each, unless one of them overflows. -/
def attempts (s : Session) (rasterizer : Rasterizer) :
    List Step → Except Overflow (Session × List Report)
  | [] => .ok (s, [])
  | step :: steps => do
      let (next, report) ← s.attempt rasterizer step
      let (last, reports) ← next.attempts rasterizer steps
      return (last, report :: reports)

end Session

end Captioning
