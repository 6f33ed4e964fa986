import Captioning.Proofs.Render.CellSizes
import Captioning.Proofs.Render.Painting
import Captioning.Proofs.Session.Treatment

/-!
# Texts drawn in blocks

What the rasterizer of block glyphs gives for a text: an image of known size, with as many bytes as
the size demands, whose ink is that of the blocks of visible characters.  As it never fails and its
images have pixels, a frame with a text never passes in a session that uses this rasterizer.
-/

namespace Captioning

/-! ## Colours -/

/-- The colours of a pixel have been multiplied by its alpha. -/
def Pixel.IsPremultiplied (p : Pixel) : Prop :=
  p.red ≤ p.alpha ∧ p.green ≤ p.alpha ∧ p.blue ≤ p.alpha

theorem Pixel.transparent_isPremultiplied : transparent.IsPremultiplied :=
  ⟨UInt8.le_refl _, UInt8.le_refl _, UInt8.le_refl _⟩

theorem Pixel.ofArgb_isPremultiplied (argb : UInt32) : (ofArgb argb).IsPremultiplied := by
  have hcolour (channel alpha : Nat) (hchannel : channel < byteCount) (halpha : alpha < byteCount) :
      UInt8.ofNat (channel * alpha / 255) ≤ UInt8.ofNat alpha := by
    have hle : channel * alpha / 255 ≤ alpha := by
      calc channel * alpha / 255 ≤ 255 * alpha / 255 :=
            Nat.div_le_div_right (Nat.mul_le_mul_right _ (Nat.le_of_lt_succ hchannel))
        _ = alpha := Nat.mul_div_cancel_left _ (by decide)
    rw [UInt8.le_iff_toNat_le, UInt8.toNat_ofNat_of_lt' (Nat.lt_of_le_of_lt hle halpha),
      UInt8.toNat_ofNat_of_lt' halpha]
    exact hle
  have hbyte (n : Nat) : n % byteCount < byteCount := Nat.mod_lt _ (by decide)
  exact ⟨hcolour _ _ (hbyte _) (hbyte _), hcolour _ _ (hbyte _) (hbyte _),
    hcolour _ _ (hbyte _) (hbyte _)⟩

/-! ## Images -/

namespace Sheet

variable {s : Sheet} {ink : Ink}

/-- An image shows the visible characters of lines as blocks. -/
structure InkedIn (s : Sheet) (ink : Ink) (r : Raster) : Prop where
  width_eq : r.width = max 1 ((s.lines.map List.length).max?.getD 0) * s.metrics.cellWidth
  height_eq : r.height = s.lines.length * s.metrics.lineHeight
  size_eq : r.pixels.size = r.width * r.height * 4
  /-- Blocks lie inside of the image. -/
  inside : ∀ b, s.Glyph b → b.right ≤ r.width ∧ b.bottom ≤ r.height
  /-- No pixel lies in two blocks. -/
  apart : ∀ b b' x y, s.Glyph b → s.Glyph b' → b.Contains x y → b'.Contains x y → b = b'
  /-- The pixels of a block have the colour of the outline on the border of a block that is wide
  enough, and that of the text elsewhere. -/
  inked : ∀ b x y, s.Glyph b → b.Contains x y → r.pixel x y =
    if b.Borders x y ∧ 2 < b.right - b.left then ink.outline else ink.fill
  /-- No other pixel is painted. -/
  blank : ∀ x < r.width, ∀ y < r.height, (∀ b, s.Glyph b → ¬ b.Contains x y) →
    r.pixel x y = .transparent
  colours : ∀ x < r.width, ∀ y < r.height,
    r.pixel x y = .transparent ∨ r.pixel x y = ink.fill ∨ r.pixel x y = ink.outline
  premultiplied : ∀ x < r.width, ∀ y < r.height, (r.pixel x y).IsPremultiplied

/-- A pixel of the image is transparent, or it has one of the two colours. -/
theorem pixel_colours (hm : s.metrics.Sound) (ink : Ink) (x y : Nat) :
    s.pixel ink x y = .transparent ∨ s.pixel ink x y = ink.fill ∨
      s.pixel ink x y = ink.outline := by
  by_cases h : ∃ b, s.Glyph b ∧ b.Contains x y
  · obtain ⟨b, hb, hxy⟩ := h
    rw [pixel_of_contains hm ink hb hxy, Block.pixel]
    split
    · exact .inr (.inr rfl)
    · exact .inr (.inl rfl)
  · exact .inl (pixel_of_not_contains hm ink fun b hb hxy => h ⟨b, hb, hxy⟩)

/-- The unrotated image of a text shows its characters as blocks. -/
theorem inkedIn_drawLines {m : Metrics} (hm : m.Sound) (text : List Char) (style : TextStyle) :
    (ofText m text style).InkedIn style.ink (drawLines m style (layoutLines text style m)) := by
  have hpixel {x y : Nat} (hx : x < (ofText m text style).width)
      (hy : y < (ofText m text style).height) :
      (drawLines m style (layoutLines text style m)).pixel x y =
        (ofText m text style).pixel style.ink x y := by
    rw [drawLines_eq]
    exact Raster.pixel_ofFn _ _ hx hy
  refine ⟨?_, height_ofText m text style, ?_, fun b hb => ⟨hb.right_le_width, ?_⟩, ?_, ?_, ?_, ?_,
    ?_⟩
  · rw [drawLines_eq, ← longestLine_eq]
    rfl
  · exact Raster.isWellFormed_iff.mp (Raster.isWellFormed_ofFn ..)
  · exact hb.bottom_le_height hm
  · exact fun b b' x y hb hb' => glyph_unique hm hb hb'
  · intro b x y hb hxy
    rw [hpixel (hxy.1.2.trans_le hb.right_le_width) (hxy.2.2.trans_le (hb.bottom_le_height hm))]
    exact pixel_of_contains hm _ hb hxy
  · intro x hx y hy h
    rw [hpixel hx hy]
    exact pixel_of_not_contains hm _ h
  · intro x hx y hy
    rw [hpixel hx hy]
    exact pixel_colours (s := ofText m text style) hm _ x y
  · intro x hx y hy
    rw [hpixel hx hy]
    rcases pixel_colours (s := ofText m text style) hm style.ink x y with h | h | h
    · rw [h]
      exact Pixel.transparent_isPremultiplied
    · rw [h]
      exact Pixel.ofArgb_isPremultiplied _
    · rw [h]
      exact Pixel.ofArgb_isPremultiplied _

end Sheet

/-- An image of a text has pixels. -/
theorem isEmpty_drawBlocks {m : Metrics} (hcell : 1 ≤ m.cellWidth) (hline : 1 ≤ m.lineHeight)
    (text : List Char) (style : TextStyle) : (drawBlocks m text style).isEmpty = false := by
  have hwidth : 0 < (Sheet.ofText m text style).width := by
    rw [Sheet.width, Sheet.longestLine_eq]
    exact Nat.mul_pos (by omega) hcell
  have hheight : 0 < (Sheet.ofText m text style).height :=
    Nat.lt_of_lt_of_le hline (Sheet.ofText m text style).lineHeight_le_height
  rw [drawBlocks, Sheet.drawLines_eq]
  cases style.vertical <;>
    simp [Raster.isEmpty, Raster.rotatedClockwise, Raster.ofFn, hwidth.ne', hheight.ne']

/-! ## Frames with a text -/

theorem blockGlyphs_drawn? (text : List Char) (style : TextStyle) :
    blockGlyphs.drawn? text style =
      some (drawBlocks (Metrics.ofStyle style) (spaced text) style) :=
  Rasterizer.drawn?_of_ok rfl (isWellFormed_drawBlocks _ _ _)

/-- A frame gets its text if that is drawn on an image that has pixels. -/
theorem outcome_treat_ne {rasterizer : Rasterizer} {item : VideoItem} {said drawn : Config}
    {text : List Char} {raster : Raster} (attach : Bool) (hsilent : said.silent = false)
    (hdrawn : rasterizer.drawn? text (drawn.textStyle item.payload.info.width
      item.payload.info.height true) = some raster) (hraster : raster.isEmpty = false) :
    (treat rasterizer attach item said drawn (some text)).outcome ≠ .passthrough := by
  simp [treat, hsilent, Config.composition?, hdrawn, VideoFrame.composite, hraster]
  cases attach <;> simp

/-- A frame that is to carry a text is not silent. -/
theorem Stage.silent_of_overlay {stage : Stage} {call : FrameCall} {text : List Char}
    {consume : Bool} (hbefore : stage.before.Speaks)
    (h : stage.decision? = some (call, .overlay text consume)) : call.config.silent = false := by
  unfold decision? at h
  split at h
  next item hphase =>
    split at h
    · cases h
    · unfold Overlay.decision? at h
      split at h
      next call' hadmission =>
        obtain ⟨d, hd, hcall⟩ := Option.map_eq_some_iff.mp h
        obtain ⟨rfl, rfl⟩ := Prod.mk.inj hcall
        cases hsilent : call'.config.silent with
        | false => rfl
        | true => simp [Overlay.decisionAlone?, Overlay.providedDecision?, hsilent] at hd
      next => cases h
  next hphase =>
    obtain ⟨call', hcall', hd⟩ := Option.bind_eq_some_iff.mp h
    obtain ⟨d, -, hcall⟩ := Option.map_eq_some_iff.mp hd
    obtain ⟨rfl, -⟩ := Prod.mk.inj hcall
    exact hbefore _ hcall'
  next => cases h

namespace Session

/-- A frame that is to carry a text leaves with it. -/
theorem leaves_with_text (steps : List Step) {stage : Stage} {call : FrameCall}
    {shown : List Char} {consume : Bool} (hmem : stage ∈ initial.stages blockGlyphs steps)
    (h : stage.decision? = some (call, .overlay shown consume)) :
    ∃ frame, stage.video = some (.ok (some frame)) ∧ frame.outcome ≠ .passthrough := by
  obtain ⟨frame, hvideo, htreated⟩ := (stages_treat blockGlyphs steps stage hmem).decided _ _ h
  have hsilent := Stage.silent_of_overlay (stages_speak blockGlyphs steps stage hmem) h
  obtain ⟨hcell, hline⟩ := Metrics.ofStyle_cells (stage.before.overlay.config.textStyle
    call.item.payload.info.width call.item.payload.info.height true)
  refine ⟨frame, hvideo, ?_⟩
  rw [← frame.unnumbered_outcome, htreated]
  exact outcome_treat_ne _ hsilent (blockGlyphs_drawn? _ _) (isEmpty_drawBlocks hcell hline _ _)

/-- **Texts are drawn in blocks.**  If blocks have a place in their cells and the sides of the
image have at most thirty-two bits, a text can be painted without a step that fails, and what has
been painted is its image.  Unless the text runs from top to bottom, in which case it is turned, the
image has room for the longest line and for all lines, and the visible characters are shown in it as
blocks, each in its cell of its line.  The image is accepted by every cache.  In particular, a frame
that is to carry a text leaves with it in every session with this rasterizer. -/
theorem texts_drawn_in_blocks {m : Metrics} (hm : m.Sound) {text : List Char} {style : TextStyle}
    (hs : (Sheet.ofText m text style).FitsWords) :
    let upright := drawLines m style (layoutLines text style m)
    paintBlocks? m text style = some { drawBlocks m text style with baseline := 0 } ∧
      (m = Metrics.ofStyle style → blockGlyphs.rasterize text style =
        .ok (drawBlocks m text style)) ∧
      drawBlocks m text style = (if style.vertical then upright.rotatedClockwise else upright) ∧
      (Sheet.ofText m text style).InkedIn style.ink upright ∧
      (∀ (cache : RenderCache) (key : SourceKey), (cache.accept key (drawBlocks m text style)).2 =
        .ok ⟨drawBlocks m text style, key, cache.renders⟩) ∧
      ∀ steps, ∀ stage ∈ initial.stages blockGlyphs steps, ∀ call shown consume,
        stage.decision? = some (call, .overlay shown consume) →
          ∃ frame, stage.video = some (.ok (some frame)) ∧ frame.outcome ≠ .passthrough := by
  refine ⟨paintBlocks?_eq hm hs, ?_, rfl, Sheet.inkedIn_drawLines hm text style, ?_, ?_⟩
  · rintro rfl
    rfl
  · intro cache key
    rw [RenderCache.accept, if_pos (isWellFormed_drawBlocks m text style)]
  · intro steps stage hmem call shown consume h
    exact leaves_with_text steps hmem h

/-- White letters with a black outline. -/
def whiteLetters : TextStyle :=
  ⟨"Sans", 0xffffffff, 0xff000000, .never, none, .center, 1.0, false, false⟩

/-- Cells of five by six pixels, with blocks of three by four pixels. -/
def smallCells : Metrics :=
  ⟨5, 6, 4, 1⟩

/-- Of two letters in cells of five pixels, the second one has its outline in the twelfth column,
its inside in the thirteenth, and nothing is shown between both letters. -/
theorem second_letter_drawn_in_block :
    smallCells.Sound ∧ (Sheet.ofText smallCells ['a', ' ', 'b'] whiteLetters).FitsWords ∧
      let image := drawBlocks smallCells ['a', ' ', 'b'] whiteLetters
      (image.width, image.height) = (15, 6) ∧
        image.pixel 11 2 = ⟨0, 0, 0, 255⟩ ∧ image.pixel 12 2 = ⟨255, 255, 255, 255⟩ ∧
          image.pixel 7 2 = .transparent := by
  have hm : smallCells.Sound := ⟨by decide, by decide, by decide⟩
  have hs : (Sheet.ofText smallCells ['a', ' ', 'b'] whiteLetters).FitsWords :=
    ⟨by decide, by decide⟩
  obtain ⟨-, -, himage, hinked, -⟩ := texts_drawn_in_blocks hm hs
  have hletter : (Sheet.ofText smallCells ['a', ' ', 'b'] whiteLetters).Glyph ⟨11, 14, 1, 5⟩ := by
    have atRow : (Sheet.ofText smallCells ['a', ' ', 'b'] whiteLetters).lines[0]? =
        some ['a', ' ', 'b'] := by
      decide
    have atColumn : ['a', ' ', 'b'][2]? = some 'b' := rfl
    exact .mk atRow atColumn (by decide)
  refine ⟨hm, hs, ?_⟩
  rw [himage]
  refine ⟨Prod.ext hinked.width_eq hinked.height_eq, ?_, ?_, ?_⟩
  · exact hinked.inked _ 11 2 hletter (by decide)
  · exact hinked.inked _ 12 2 hletter (by decide)
  · refine hinked.blank 7 (by decide) 2 (by decide) ?_
    rintro b ⟨atRow, atColumn, visible⟩ hxy
    -- the only cell with this pixel is that of the space
    obtain ⟨rfl, -, rfl, -⟩ := (Metrics.contains_block_iff_cell hm).mp hxy
    obtain rfl := Option.some.inj atRow
    obtain rfl := Option.some.inj atColumn
    exact absurd visible (by decide)

end Session

end Captioning
