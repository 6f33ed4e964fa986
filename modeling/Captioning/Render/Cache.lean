import Captioning.Render.Rasterizer
import Captioning.Text.Payload

/-!
# The image of the current text

Most frames show the same text as the frame before.  The cache keeps the last image, and hands
it out again as long as text and style are the same and nothing has made it stale.
-/

namespace Captioning

/-- A call of the rasterizer. -/
structure RenderRequest where
  text : List Char
  style : TextStyle

/-- The last image, and an account of the calls of the rasterizer. -/
structure RenderCache where
  image : Option RenderedImage
  /-- Whether the image is stale. -/
  dirty : Bool
  /-- The number of calls that gave an image. -/
  renders : Nat
  /-- All calls, the last one first. -/
  requests : List RenderRequest

namespace RenderCache

/-- The cache without an image that is not stale. -/
def blank : RenderCache :=
  ⟨none, false, 0, []⟩

/-- The cache without an image. -/
def empty : RenderCache :=
  { blank with dirty := true }

/-- Makes the image stale. -/
def invalidate (c : RenderCache) : RenderCache :=
  { c with dirty := true }

/-- Drops the image. -/
def clear (c : RenderCache) : RenderCache :=
  { c with image := none, dirty := true }

/-- The kept image, if it shows what the key says. -/
def kept? (c : RenderCache) (key : SourceKey) : Option RenderedImage :=
  if c.dirty then none else c.image.filter fun image => image.source = key

/-- Notes a call of the rasterizer. -/
def ask (c : RenderCache) (text : List Char) (style : TextStyle) : RenderCache :=
  { c with requests := ⟨text, style⟩ :: c.requests }

/-- Counts an image that the rasterizer gave. -/
def count (c : RenderCache) : RenderCache :=
  { c with renders := c.renders + 1 }

/-- Keeps an image. -/
def keep (c : RenderCache) (image : RenderedImage) : RenderCache :=
  { c with image := some image, dirty := false }

/-- Takes an image that the rasterizer gave, unless its bytes do not fit its size. -/
def accept (c : RenderCache) (key : SourceKey) (raster : Raster) :
    RenderCache × Except CaptionError RenderedImage :=
  if raster.isWellFormed then
    let image : RenderedImage := ⟨raster, key, c.renders⟩
    (c.keep image, .ok image)
  else (c, .error raster.sizeError)

/-- The image of a text in a style.  Unless the kept image shows it, the rasterizer is asked,
for the text with tabs and carriage returns turned into spaces.  A failure leaves the kept image
as it is. -/
def render (c : RenderCache) (rasterizer : Rasterizer) (text : List Char) (style : TextStyle) :
    RenderCache × Except CaptionError RenderedImage :=
  let key := style.sourceKey text
  match c.kept? key with
  | some image => (c, .ok image)
  | none =>
      let asked := c.ask (spaced text) style
      match rasterizer.rasterize (spaced text) style with
      | .error e => (asked, .error e)
      | .ok raster => asked.count.accept key raster

/-- What overflows in a rendering, if anything does: the size of an image that the rasterizer
gives. -/
def overflow? (c : RenderCache) (rasterizer : Rasterizer) (text : List Char) (style : TextStyle) :
    Option Overflow :=
  match c.kept? (style.sourceKey text) with
  | some _ => none
  | none =>
      match rasterizer.rasterize (spaced text) style with
      | .error _ => none
      | .ok raster => raster.sizeOverflow?

end RenderCache

end Captioning
