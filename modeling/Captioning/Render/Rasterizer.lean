import Captioning.Error
import Captioning.Render.Raster

/-!
# Rasterizers

A rasterizer turns a text in a style into an image.  It is deterministic: the same text in the
same style always has the same image.
-/

namespace Captioning

/-- What draws texts. -/
structure Rasterizer where
  /-- The image of a text in a style. -/
  rasterize : List Char → TextStyle → Except CaptionError Raster

/-- The refusal of an image whose bytes do not fit its size. -/
def Raster.sizeError (r : Raster) : CaptionError :=
  .rasterizer (.wrongSize r.width r.height r.pixels.size r.expectedSize)

end Captioning
