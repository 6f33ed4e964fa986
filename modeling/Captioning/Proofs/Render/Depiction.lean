import Captioning.Render.Cache

/-!
# What an image shows

An image is handed out again only for the text and the style that it was made for.  So every image
that a cache holds or hands out is what the rasterizer draws for its text, and the text of an
image that was asked for is the text that it was asked for.
-/

namespace Captioning

private theorem toBits_inj {x y : Float} (h : x.toBits = y.toBits) : x = y := by
  obtain ⟨⟨x, hx⟩⟩ := x
  obtain ⟨⟨y, hy⟩⟩ := y
  obtain rfl : x = y := h
  rfl

theorem TextStyle.sourceKey_inj {a b : TextStyle} {text text' : List Char}
    (h : a.sourceKey text = b.sourceKey text') : a = b ∧ text = text' := by
  obtain ⟨font, color, outline, wrap, width, align, scale, vertical, markup⟩ := a
  obtain ⟨font', color', outline', wrap', width', align', scale', vertical', markup'⟩ := b
  simp only [TextStyle.sourceKey, SourceKey.mk.injEq] at h
  obtain ⟨rfl, rfl, rfl, rfl, rfl, rfl, rfl, hscale, rfl, rfl⟩ := h
  rw [toBits_inj hscale]
  exact ⟨rfl, rfl⟩

/-- An image is what the rasterizer draws for a text in a style. -/
structure RenderedImage.Depicts (image : RenderedImage) (rasterizer : Rasterizer)
    (text : List Char) (style : TextStyle) : Prop where
  source : image.source = style.sourceKey text
  drawn : rasterizer.rasterize (spaced text) style = .ok image.raster

namespace RenderCache

variable {c c' : RenderCache} {rasterizer : Rasterizer} {text : List Char} {style : TextStyle}
  {result : Except CaptionError RenderedImage}

/-- What asking for the image of a text can come to. -/
inductive Rendering (c : RenderCache) (rasterizer : Rasterizer) (text : List Char)
    (style : TextStyle) : RenderCache → Except CaptionError RenderedImage → Prop
  | kept {image : RenderedImage} (clean : c.dirty = false) (current : c.image = some image)
      (source : image.source = style.sourceKey text) :
      Rendering c rasterizer text style c (.ok image)
  | failed {error : CaptionError} (stale : c.kept? (style.sourceKey text) = none)
      (drawn : rasterizer.rasterize (spaced text) style = .error error) :
      Rendering c rasterizer text style (c.ask (spaced text) style) (.error error)
  | malformed {raster : Raster} (stale : c.kept? (style.sourceKey text) = none)
      (drawn : rasterizer.rasterize (spaced text) style = .ok raster)
      (size : raster.isWellFormed = false) :
      Rendering c rasterizer text style (c.ask (spaced text) style).count
        (.error raster.sizeError)
  | drawn {raster : Raster} (stale : c.kept? (style.sourceKey text) = none)
      (drawn : rasterizer.rasterize (spaced text) style = .ok raster)
      (size : raster.isWellFormed = true) :
      Rendering c rasterizer text style
        ((c.ask (spaced text) style).count.keep ⟨raster, style.sourceKey text, c.renders + 1⟩)
        (.ok ⟨raster, style.sourceKey text, c.renders + 1⟩)

theorem render_rendering (c : RenderCache) (rasterizer : Rasterizer) (text : List Char)
    (style : TextStyle) :
    c.Rendering rasterizer text style (c.render rasterizer text style).1
      (c.render rasterizer text style).2 := by
  unfold render
  dsimp only
  split
  next image hkept =>
    unfold kept? at hkept
    split at hkept
    · simp at hkept
    next hclean =>
      simp only [Option.filter_eq_some_iff, decide_eq_true_eq] at hkept
      exact .kept (by simpa using hclean) hkept.1 hkept.2
  next hstale =>
    split
    next error hdrawn => exact .failed hstale hdrawn
    next raster hdrawn =>
      unfold accept
      split
      next hsize => exact .drawn hstale hdrawn hsize
      next hsize => exact .malformed hstale hdrawn (by simpa using hsize)

theorem render_of_clean {image : RenderedImage} (hclean : c.dirty = false)
    (himage : c.image = some image) (hsource : image.source = style.sourceKey text) :
    c.render rasterizer text style = (c, .ok image) := by
  have hkept : c.kept? (style.sourceKey text) = some image := by
    simp [kept?, hclean, himage, hsource]
  simp only [render, hkept]

theorem render_of_dirty {raster : Raster} (hdirty : c.dirty = true)
    (hdrawn : rasterizer.rasterize (spaced text) style = .ok raster)
    (hsize : raster.isWellFormed = true) :
    c.render rasterizer text style =
      ((c.ask (spaced text) style).count.keep ⟨raster, style.sourceKey text, c.renders + 1⟩,
        .ok ⟨raster, style.sourceKey text, c.renders + 1⟩) := by
  have hkept : c.kept? (style.sourceKey text) = none := by simp [kept?, hdirty]
  simp only [render, hkept, hdrawn, accept, hsize, if_true]
  rfl

/-- The image of a cache is what the rasterizer draws for some text. -/
def Faithful (c : RenderCache) (rasterizer : Rasterizer) : Prop :=
  ∀ image, c.image = some image → ∃ text style, image.Depicts rasterizer text style

theorem empty_faithful (rasterizer : Rasterizer) : empty.Faithful rasterizer := by
  intro image himage
  simp [empty, blank] at himage

theorem Faithful.invalidate (h : c.Faithful rasterizer) : c.invalidate.Faithful rasterizer := h

/-- An image that is handed out shows the text that was asked for. -/
theorem Rendering.depicts {image : RenderedImage}
    (h : c.Rendering rasterizer text style c' (.ok image)) (hc : c.Faithful rasterizer) :
    image.Depicts rasterizer text style := by
  cases h with
  | kept clean current source =>
      obtain ⟨text', style', hdepicts⟩ := hc image current
      obtain ⟨rfl, rfl⟩ := TextStyle.sourceKey_inj (hdepicts.source.symm.trans source)
      exact hdepicts
  | drawn stale drawn size => exact ⟨rfl, drawn⟩

theorem Rendering.faithful (h : c.Rendering rasterizer text style c' result)
    (hc : c.Faithful rasterizer) : c'.Faithful rasterizer := by
  cases h with
  | kept clean current source => exact hc
  | failed stale drawn => exact hc
  | malformed stale drawn size => exact hc
  | drawn stale drawn size =>
      intro image himage
      obtain rfl := Option.some.inj himage
      exact ⟨text, style, rfl, drawn⟩

end RenderCache

/-- A row of white pixels, one more than there are characters. -/
def Raster.whiteRow (text : List Char) : Raster :=
  ofFn (text.length + 1) 1 0 fun _ _ => ⟨255, 255, 255, 255⟩

/-- A rasterizer that draws rows of white pixels. -/
def Rasterizer.white : Rasterizer where
  rasterize text _ := .ok (Raster.whiteRow text)

end Captioning
