import Captioning.Render.Style
import Captioning.Width

/-!
# Images of text

The image of a text holds four bytes for each pixel: red, green and blue multiplied by alpha,
and alpha.
-/

namespace Captioning

/-- A pixel whose colours are multiplied by alpha. -/
structure Pixel where
  red : UInt8
  green : UInt8
  blue : UInt8
  alpha : UInt8
  deriving DecidableEq

namespace Pixel

/-- The pixel that shows nothing. -/
def transparent : Pixel :=
  ⟨0, 0, 0, 0⟩

/-- The bytes of a pixel in their order. -/
def byte (p : Pixel) : Nat → UInt8
  | 0 => p.red
  | 1 => p.green
  | 2 => p.blue
  | _ => p.alpha

/-- The pixel of a colour whose bytes are alpha, red, green and blue from the highest down. -/
def ofArgb (argb : UInt32) : Pixel :=
  let channel (shift : Nat) : Nat := argb.toNat / powerOfTwo shift % byteCount
  let alpha := channel 24
  let multiplied (shift : Nat) : UInt8 := UInt8.ofNat (channel shift * alpha / 255)
  ⟨multiplied 16, multiplied 8, multiplied 0, UInt8.ofNat alpha⟩

end Pixel

/-- An image. -/
structure Raster where
  width : Nat
  height : Nat
  /-- The distance from the top to the baseline of the first line. -/
  baseline : Int
  /-- The bytes of the pixels, row by row. -/
  pixels : Array UInt8
  deriving DecidableEq

namespace Raster

/-- The number of bytes that an image of this size has. -/
def expectedSize (r : Raster) : Nat :=
  r.width * r.height * 4

/-- What overflows when the number of bytes of an image of this size is computed, if it does not
fit. -/
def sizeOverflow? (r : Raster) : Option Overflow :=
  if r.expectedSize < longCount then none else some .imageSize

/-- Whether there are as many bytes as the size demands. -/
def isWellFormed (r : Raster) : Bool :=
  r.pixels.size = r.expectedSize

/-- Whether the image has no pixels. -/
def isEmpty (r : Raster) : Bool :=
  r.width = 0 || r.height = 0

/-- The pixel in column `x` and row `y`. -/
def pixel (r : Raster) (x y : Nat) : Pixel :=
  let i := (y * r.width + x) * 4
  ⟨r.pixels.getD i 0, r.pixels.getD (i + 1) 0, r.pixels.getD (i + 2) 0, r.pixels.getD (i + 3) 0⟩

/-- The image with given pixels. -/
def ofFn (width height : Nat) (baseline : Int) (f : Nat → Nat → Pixel) : Raster :=
  let cells : Array Pixel :=
    Array.ofFn fun i : Fin (width * height) => f (i.val % width) (i.val / width)
  { width := width
    height := height
    baseline := baseline
    pixels := Array.ofFn fun i : Fin (width * height * 4) =>
      (cells.getD (i.val / 4) Pixel.transparent).byte (i.val % 4) }

/-- The image turned by a quarter to the right.  It has no baseline. -/
def rotatedClockwise (r : Raster) : Raster :=
  ofFn r.height r.width 0 fun x y => r.pixel y (r.height - 1 - x)

/-- An image with given pixels has as many bytes as its size demands. -/
theorem isWellFormed_ofFn (width height : Nat) (baseline : Int) (f : Nat → Nat → Pixel) :
    (ofFn width height baseline f).isWellFormed = true := by
  simp [ofFn, isWellFormed, expectedSize]

end Raster

/-- An image together with what it shows.  Images made by different calls of a rasterizer have
different serial numbers. -/
structure RenderedImage where
  raster : Raster
  source : SourceKey
  serial : Nat
  deriving DecidableEq

end Captioning
