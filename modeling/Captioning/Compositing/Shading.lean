import Captioning.Video.Frame

/-!
# Shading

A box is darkened by lowering its samples of brightness and colour.
-/

namespace Captioning

/-- Whether shading lowers samples of a component.  The fillers are lowered like the colours
beside them. -/
def Component.isShaded : Component → Bool
  | .red | .green | .blue | .luma | .filler => true
  | .alpha | .cb | .cr => false

/-- A sample lowered by `value`, but not below zero. -/
def lowered (value sample : UInt8) : UInt8 :=
  UInt8.ofNat (sample.toNat - value.toNat)

/-- The change of samples that shading by `value` makes. -/
def shadeChange (value : UInt8) : SampleChange := fun component sample =>
  if component.isShaded then lowered value sample else sample

/-- The numbers from `first` up to but not including `last` that are below `limit`. -/
def Span.clamped (first last : Int) (limit : Nat) : Span :=
  .between (min (max first 0) limit).toNat (min (max last 0) limit).toNat

/-- What overflows when a box is darkened, if anything does: the box is kept inside of the frame by
numbers of thirty-two bits with a sign, and a side that is none of them leaves no room for it. -/
def VideoInfo.sideOverflow? (info : VideoInfo) : Option Overflow :=
  if info.width < signedWordCount ∧ info.height < signedWordCount then none else some .frameSide

/-- The frame with the box from column `x0` up to `x1` and from row `y0` up to `y1` darkened.
The part of the box outside of the frame is left out. -/
def VideoFrame.shadeBox (frame : VideoFrame) (x0 y0 x1 y1 : Int) (value : UInt8) : VideoFrame :=
  { frame with
    data := frame.info.mapPixels (.clamped x0 x1 frame.info.width)
      (.clamped y0 y1 frame.info.height) (fun _ _ => shadeChange value) frame.data
    size_le := by rw [VideoInfo.size_mapPixels]; exact frame.size_le }

end Captioning
