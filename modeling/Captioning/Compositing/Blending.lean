import Captioning.Compositing.Shading

/-!
# Blending

An image is drawn into the samples of a frame.  Colours and alpha are drawn premultiplied, luma
and chroma are mixed by alpha.  The chroma that a block of pixels shares is mixed once, with the
mean of all pixels of the block; where the image does not reach, a pixel counts as transparent.
-/

namespace Captioning

/-- Luma and chroma of the colour that a pixel shows. -/
def Pixel.yuv (p : Pixel) : Yuv :=
  let alpha := p.alpha.toNat
  Yuv.ofRgb (straightened p.red.toNat alpha) (straightened p.green.toNat alpha)
    (straightened p.blue.toNat alpha)

/-- What becomes of a sample below a pixel.  A transparent pixel changes nothing. -/
def Pixel.change (p : Pixel) : SampleChange := fun component sample =>
  if p.alpha = 0 then sample
  else match component with
    | .red => laidOver p.red sample p.alpha
    | .green => laidOver p.green sample p.alpha
    | .blue => laidOver p.blue sample p.alpha
    | .alpha => laidOver p.alpha sample p.alpha
    | .luma => mix p.yuv.y sample p.alpha
    | .cb => mix p.yuv.cb sample p.alpha
    | .cr => mix p.yuv.cr sample p.alpha
    | .filler => sample

/-- The sums of the samples of several pixels. -/
structure PixelSum where
  red : Nat
  green : Nat
  blue : Nat
  alpha : Nat
  deriving DecidableEq

namespace PixelSum

/-- Adds a pixel. -/
def add (s : PixelSum) (p : Pixel) : PixelSum :=
  ⟨s.red + p.red.toNat, s.green + p.green.toNat, s.blue + p.blue.toNat, s.alpha + p.alpha.toNat⟩

/-- The sums over a list of pixels. -/
def ofList (pixels : List Pixel) : PixelSum :=
  pixels.foldl add ⟨0, 0, 0, 0⟩

/-- Luma and chroma of the mean colour, in which each pixel counts by its alpha. -/
def yuv (s : PixelSum) : Yuv :=
  Yuv.ofRgb (straightened s.red s.alpha) (straightened s.green s.alpha)
    (straightened s.blue s.alpha)

/-- The mean alpha of `count` pixels, rounded to the nearest integer. -/
def meanAlpha (s : PixelSum) (count : Nat) : UInt8 :=
  UInt8.ofNat (min ((s.alpha + count / 2) / count) 255)

/-- What becomes of a sample that `count` pixels share. -/
def change (s : PixelSum) (count : Nat) : SampleChange := fun component sample =>
  if s.alpha = 0 then sample
  else match component with
    | .cb => mix s.yuv.cb sample (s.meanAlpha count)
    | .cr => mix s.yuv.cr sample (s.meanAlpha count)
    | _ => sample

end PixelSum

/-- The pixels of the frame in one direction on which an image falls that begins at `start`. -/
def Span.visible (start : Int) (image frame : Nat) : Span :=
  .clamped start (start + image) frame

/-- The numbers of the group `i` of `size` numbers that are below `limit`. -/
def Span.group (size limit i : Nat) : Span :=
  ⟨i * size, min size (limit - i * size)⟩

namespace VideoFrame

/-- The pixels of an image that fall on a block of the frame. -/
def coverBlock (info : VideoInfo) (shared : SharedChroma) (image : Raster) (x y : Int)
    (column row : Nat) : List Pixel :=
  (Span.group shared.rows info.height row).toList.flatMap fun fy =>
    (Span.group shared.columns info.width column).toList.map fun fx => image.cover x y fx fy

/-- What becomes of the samples that a block shares. -/
def blockChange (info : VideoInfo) (shared : SharedChroma) (image : Raster) (x y : Int)
    (column row : Nat) : SampleChange :=
  let pixels := coverBlock info shared image x y column row
  (PixelSum.ofList pixels).change pixels.length

/-- The bytes of a frame with an image drawn at `(x, y)`.  Only where the image is visible can
anything change. -/
def blendData (info : VideoInfo) (image : Raster) (x y : Int) (data : Array UInt8) :
    Array UInt8 :=
  let columns := Span.visible x image.width info.width
  let rows := Span.visible y image.height info.height
  let own := info.mapPixels columns rows (fun fx fy => (image.cover x y fx fy).change) data
  match info.format.sharedChroma? with
  | some shared =>
      if columns.count = 0 ∨ rows.count = 0 then own
      else info.mapChroma shared (columns.grouped shared.columns) (rows.grouped shared.rows)
        (blockChange info shared image x y) own
  | none => own

/-- Drawing an image changes no size. -/
theorem size_blendData (info : VideoInfo) (image : Raster) (x y : Int) (data : Array UInt8) :
    (blendData info image x y data).size = data.size := by
  unfold blendData
  dsimp only
  split
  · split <;> simp [VideoInfo.size_mapPixels, VideoInfo.size_mapChroma]
  · simp [VideoInfo.size_mapPixels]

/-- The frame with an image drawn at `(x, y)`. -/
def blend (frame : VideoFrame) (image : Raster) (x y : Int) : VideoFrame :=
  { frame with
    data := blendData frame.info image x y frame.data
    size_le := by rw [size_blendData]; exact frame.size_le }

end VideoFrame

end Captioning
