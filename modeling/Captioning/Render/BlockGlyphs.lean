import Captioning.Render.Metrics
import Captioning.Render.Rasterizer
import Captioning.Render.Wrap
import Captioning.Text.Markup

/-!
# Block glyphs

A rasterizer that needs no font: each visible character is a filled block with an outline, in a
cell of fixed size.
-/

namespace Captioning

/-- The colours of a glyph. -/
structure Ink where
  fill : Pixel
  outline : Pixel

/-- The text that is drawn: markup without its tags. -/
def shownText (text : List Char) (style : TextStyle) : List Char :=
  if style.markup then Markup.plain text else text

/-- The lines of a text. -/
def layoutLines (text : List Char) (style : TextStyle) (m : Metrics) : List (List Char) :=
  wrapText (m.lineLimit? style) style.wrapMode (shownText text style)

/-- The greatest number of characters of a line, at least one. -/
def longestLine (lines : List (List Char)) : Nat :=
  lines.foldl (fun n line => max n line.length) 1

/-- The distance of a line from the left edge. -/
def indent (align : LineAlign) (width lineWidth : Nat) : Nat :=
  match align with
  | .left => 0
  | .center => (width - lineWidth) / 2
  | .right => width - lineWidth

namespace Metrics

/-- The distance of a block from each side of its cell. -/
def inset (m : Metrics) : Nat :=
  if 2 < m.cellWidth then 1 else 0

/-- Whether the place `(x, y)` in a cell lies in its block. -/
def inBlock (m : Metrics) (x y : Nat) : Bool :=
  m.inset ≤ x && x < m.cellWidth - m.inset && m.top ≤ y && y < m.top + m.ascent

/-- Whether the place `(x, y)` in a cell lies on the border of its block. -/
def onBorder (m : Metrics) (x y : Nat) : Bool :=
  x = m.inset || x + 1 = m.cellWidth - m.inset || y = m.top || y + 1 = m.top + m.ascent

/-- The pixel at the place `(x, y)` in the cell of a visible character.  Only blocks more than
two pixels wide have an outline. -/
def blockPixel (m : Metrics) (ink : Ink) (x y : Nat) : Pixel :=
  if !m.inBlock x y then Pixel.transparent
  else if m.onBorder x y && 2 < m.cellWidth - 2 * m.inset then ink.outline
  else ink.fill

end Metrics

/-- The pixel in column `x` and row `y` of laid-out lines, in an image of the given width. -/
def glyphPixel (m : Metrics) (align : LineAlign) (ink : Ink) (lines : Array (Array Char))
    (width x y : Nat) : Pixel :=
  match lines[y / m.lineHeight]? with
  | none => Pixel.transparent
  | some cells =>
      let start := indent align width (cells.size * m.cellWidth)
      if x < start then Pixel.transparent
      else match cells[(x - start) / m.cellWidth]? with
        | none => Pixel.transparent
        | some c =>
            if isBlank c then Pixel.transparent
            else m.blockPixel ink ((x - start) % m.cellWidth) (y % m.lineHeight)

/-- The image of lines, unrotated. -/
def drawLines (m : Metrics) (style : TextStyle) (lines : List (List Char)) : Raster :=
  let width := longestLine lines * m.cellWidth
  let ink : Ink := ⟨Pixel.ofArgb style.color, Pixel.ofArgb style.outlineColor⟩
  let cells := (lines.map List.toArray).toArray
  Raster.ofFn width (max lines.length 1 * m.lineHeight) (m.top + m.ascent : Nat)
    (glyphPixel m style.lineAlign ink cells width)

/-- The image of a text with given metrics. -/
def drawBlocks (m : Metrics) (text : List Char) (style : TextStyle) : Raster :=
  let upright := drawLines m style (layoutLines text style m)
  if style.vertical then upright.rotatedClockwise else upright

/-- The rasterizer that draws characters as blocks. -/
def blockGlyphs : Rasterizer where
  rasterize := fun text style => .ok (drawBlocks (Metrics.ofStyle style) text style)

/-- The images of block glyphs have as many bytes as their size demands. -/
theorem isWellFormed_drawBlocks (m : Metrics) (text : List Char) (style : TextStyle) :
    (drawBlocks m text style).isWellFormed = true := by
  unfold drawBlocks
  dsimp only
  split
  · exact Raster.isWellFormed_ofFn ..
  · exact Raster.isWellFormed_ofFn ..

end Captioning
