import Captioning.Render.Raster

/-!
# Compositions

An image at a place of a frame.  The place may lie outside of the frame.
-/

namespace Captioning

/-- An image and the place of its upper left corner. -/
structure Composition where
  image : RenderedImage
  x : Int
  y : Int
  deriving DecidableEq

/-- The pixel of an image whose upper left corner is at `(x, y)` that falls on the pixel
`(fx, fy)` of the frame; outside of the image nothing is shown. -/
def Raster.cover (r : Raster) (x y : Int) (fx fy : Nat) : Pixel :=
  let column := (fx : Int) - x
  let row := (fy : Int) - y
  if 0 ≤ column ∧ column < r.width ∧ 0 ≤ row ∧ row < r.height then
    r.pixel column.toNat row.toNat
  else Pixel.transparent

end Captioning
