import Captioning.Proofs.Render.Depiction

/-!
# Images without a cache

A cache saves calls of the rasterizer, but it does not change what is seen: whatever was asked
before, the image that is handed out for a text is the one that the rasterizer draws, or none if
the rasterizer fails.  Only the number by which images are told apart depends on the past.
-/

namespace Captioning

/-- What a rasterizer draws for a text in a style, if it draws something and the bytes fit the
size. -/
def Rasterizer.drawn? (rasterizer : Rasterizer) (text : List Char) (style : TextStyle) :
    Option Raster :=
  match rasterizer.rasterize (spaced text) style with
  | .ok raster => if raster.isWellFormed then some raster else none
  | .error _ => none

/-- An image without the number that tells it from other ones. -/
def RenderedImage.unnumbered (image : RenderedImage) : RenderedImage :=
  { image with serial := 0 }

namespace Rasterizer

variable {rasterizer : Rasterizer} {text : List Char} {style : TextStyle} {raster : Raster}

theorem drawn?_of_ok (h : rasterizer.rasterize (spaced text) style = .ok raster)
    (hsize : raster.isWellFormed = true) : rasterizer.drawn? text style = some raster := by
  simp only [drawn?, h, hsize, if_true]

theorem drawn?_of_malformed (h : rasterizer.rasterize (spaced text) style = .ok raster)
    (hsize : raster.isWellFormed = false) : rasterizer.drawn? text style = none := by
  simp [drawn?, h, hsize]

theorem drawn?_of_error {error : CaptionError}
    (h : rasterizer.rasterize (spaced text) style = .error error) :
    rasterizer.drawn? text style = none := by
  simp only [drawn?, h]

end Rasterizer

namespace RenderCache

variable {c c' : RenderCache} {rasterizer : Rasterizer} {text : List Char} {style : TextStyle}
  {result : Except CaptionError RenderedImage}

/-- The image of a cache was drawn for some text. -/
def Exact (c : RenderCache) (rasterizer : Rasterizer) : Prop :=
  ∀ image, c.image = some image → ∃ text style, image.source = style.sourceKey text ∧
    rasterizer.drawn? text style = some image.raster

/-- What caches keep, whatever is asked of them. -/
structure Invariant (rasterizer : Rasterizer) (keeps : RenderCache → Prop) : Prop where
  invalidate : ∀ c, keeps c → keeps c.invalidate
  render : ∀ c text style, keeps c → keeps (c.render rasterizer text style).1

theorem empty_exact (rasterizer : Rasterizer) : empty.Exact rasterizer := by
  intro image himage
  simp [empty, blank] at himage

theorem Rendering.exact (h : c.Rendering rasterizer text style c' result)
    (hc : c.Exact rasterizer) : c'.Exact rasterizer := by
  cases h with
  | kept clean current source => exact hc
  | failed stale drawn => exact hc
  | malformed stale drawn size => exact hc
  | drawn stale drawn size =>
      intro image himage
      obtain rfl := Option.some.inj himage
      exact ⟨text, style, rfl, Rasterizer.drawn?_of_ok drawn size⟩

theorem exact_invariant (rasterizer : Rasterizer) :
    Invariant rasterizer fun c => c.Exact rasterizer where
  invalidate _ h := h
  render c text style h := (c.render_rendering rasterizer text style).exact h

theorem faithful_invariant (rasterizer : Rasterizer) :
    Invariant rasterizer fun c => c.Faithful rasterizer where
  invalidate _ h := h.invalidate
  render c text style h := (c.render_rendering rasterizer text style).faithful h

/-- What is handed out for a text is what the rasterizer draws for it, up to the number of the
image. -/
theorem Rendering.unnumbered_eq (h : c.Rendering rasterizer text style c' result)
    (hc : c.Exact rasterizer) :
    result.toOption.map RenderedImage.unnumbered =
      (rasterizer.drawn? text style).map fun raster => ⟨raster, style.sourceKey text, 0⟩ := by
  cases h with
  | @kept image clean current source =>
      -- the image was drawn for a text with the same key, which is this text
      obtain ⟨text', style', hsource, hdrawn⟩ := hc image current
      obtain ⟨rfl, rfl⟩ := TextStyle.sourceKey_inj (hsource.symm.trans source)
      rw [hdrawn, Option.map_some, ← source]
      rfl
  | failed stale drawn =>
      rw [Rasterizer.drawn?_of_error drawn]
      rfl
  | malformed stale drawn size =>
      rw [Rasterizer.drawn?_of_malformed drawn size]
      rfl
  | drawn stale drawn size =>
      rw [Rasterizer.drawn?_of_ok drawn size]
      rfl

end RenderCache

end Captioning
