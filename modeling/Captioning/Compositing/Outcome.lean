import Captioning.Compositing.Blending
import Captioning.Compositing.Placement

/-!
# Compositing

An image either stays beside the frame, for another element to draw, or is drawn into it, on a
darkened box if that is wanted.
-/

namespace Captioning

/-- What became of a frame. -/
inductive Outcome where
  /-- It is unchanged. -/
  | passthrough
  /-- It carries an image to be drawn by another element. -/
  | attached
  /-- An image is drawn into it. -/
  | blended
  deriving DecidableEq

/-- The name of an outcome in reports. -/
def Outcome.name : Outcome → String
  | passthrough => "passthrough"
  | attached => "attached"
  | blended => "blended"

/-- How many pixels the darkened box reaches beyond the image on each side. -/
def boxMargin : Int :=
  6

namespace VideoFrame

/-- The frame with the box around an image darkened. -/
def shadeAround (frame : VideoFrame) (c : Composition) (value : UInt8) : VideoFrame :=
  frame.shadeBox (saturate (c.x - boxMargin)) (saturate (c.y - boxMargin))
    (saturate (c.x + c.image.raster.width + boxMargin))
    (saturate (c.y + c.image.raster.height + boxMargin)) value

/-- The frame with an image drawn into it, on a box that is darkened by the given value if
there is one. -/
def drawn (frame : VideoFrame) (c : Composition) (shading : Option UInt8) : VideoFrame :=
  let background :=
    match shading with
    | some value => frame.shadeAround c value
    | none => frame
  background.blend c.image.raster c.x c.y

/-- The frame with an image, and what became of it.  An image without pixels is left out. -/
def composite (frame : VideoFrame) (c : Composition) (attach : Bool) (shading : Option UInt8) :
    VideoFrame × Outcome :=
  if c.image.raster.isEmpty then (frame, .passthrough)
  else if attach then ({ frame with composition := some c }, .attached)
  else (frame.drawn c shading, .blended)

end VideoFrame

/-- What overflows when a frame is given an image, if anything does.  It does not depend on the
bytes of the frame. -/
def VideoInfo.compositeOverflow? (info : VideoInfo) (image : Raster) (attach : Bool)
    (shading : Option UInt8) : Option Overflow :=
  if image.isEmpty || attach || shading.isNone then none else info.sideOverflow?

end Captioning
