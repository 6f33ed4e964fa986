import Captioning.Proofs.Render.Glyphs
import Captioning.Proofs.Render.Pixels

/-!
# Painting a text

The image of a text is defined pixel by pixel.  To paint it, one goes through the lines and their
characters and writes the blocks of the glyphs, and then turns the image if the text runs from top
to bottom.  Every step of this could fail: a number could need more than thirty-two bits or become
negative, and a pixel could lie outside of the image.  For images whose sides have thirty-two bits
no step fails, and what has been painted in the end is the image.

The addresses of bytes need no limit of their own, since they lie in an array that is there.  That
they do follows from the layout: lines are not wider than the image, and the cells of a line lie
next to each other.
-/

namespace Captioning

/-! ## Steps that could fail -/

/-- A number, if it has at most thirty-two bits. -/
def word? (n : Nat) : Option Nat :=
  if n < wordCount then some n else none

/-- A difference, if it is not negative. -/
def difference? (a b : Nat) : Option Nat :=
  if b ≤ a then some (a - b) else none

/-- Where a line begins, if it is not wider than the image. -/
def indent? (align : LineAlign) (width lineWidth : Nat) : Option Nat :=
  match align with
  | .left => some 0
  | .center => (difference? width lineWidth).map (· / 2)
  | .right => difference? width lineWidth

/-- The block of the cell in a column, in a line that begins at `start`. -/
def block? (m : Metrics) (start top bottom column : Nat) : Option Block := do
  let distance ← word? (column * m.cellWidth)
  let cellLeft ← word? (start + distance)
  let cellRight ← word? (cellLeft + m.cellWidth)
  let left ← word? (cellLeft + m.inset)
  let right ← difference? cellRight m.inset
  some ⟨left, right, top, bottom⟩

/-- Paints a pixel of a block. -/
def paintPixel? (ink : Ink) (b : Block) (x y : Nat) (canvas : Raster) : Option Raster := do
  let _ ← word? (x + 1)
  let _ ← word? (y + 1)
  let _ ← difference? b.right b.left
  canvas.write? x y (b.pixel x y ink)

/-- Paints a row of a block. -/
def paintRow? (ink : Ink) (b : Block) (y : Nat) (canvas : Raster) : Option Raster :=
  (List.range' b.left (b.right - b.left)).foldlM (fun canvas x => paintPixel? ink b x y canvas)
    canvas

/-- Paints a block, row by row. -/
def paintBlock? (ink : Ink) (b : Block) (canvas : Raster) : Option Raster :=
  (List.range' b.top (b.bottom - b.top)).foldlM (fun canvas y => paintRow? ink b y canvas) canvas

/-- Paints the cell of a character, if that is visible. -/
def paintCell? (m : Metrics) (ink : Ink) (start top bottom : Nat) (c : Char) (column : Nat)
    (canvas : Raster) : Option Raster :=
  if isBlank c then some canvas
  else do
    let b ← block? m start top (min bottom canvas.height) column
    paintBlock? ink b canvas

/-- Paints the characters of a line, one after the other. -/
def paintLine? (m : Metrics) (align : LineAlign) (ink : Ink) (line : List Char) (row : Nat)
    (canvas : Raster) : Option Raster := do
  let lineWidth ← word? (line.length * m.cellWidth)
  let start ← indent? align canvas.width lineWidth
  let distance ← word? (row * m.lineHeight)
  let top ← word? (distance + m.top)
  let bottom ← word? (top + m.ascent)
  line.zipIdx.foldlM (fun canvas a => paintCell? m ink start top bottom a.1 a.2 canvas) canvas

/-- Paints all lines. -/
def paintSheet? (s : Sheet) (ink : Ink) : Option Raster := do
  let width ← word? s.width
  let height ← word? s.height
  let canvas ← s.lines.zipIdx.foldlM (fun canvas a =>
    paintLine? s.metrics s.align ink a.1 a.2 canvas) (Raster.blank width height)
  let _ ← word? (s.metrics.top + s.metrics.ascent)
  some canvas

/-- Writes a pixel of an image where it is found when the image has been turned. -/
def turnPixel? (r : Raster) (x y : Nat) (turned : Raster) : Option Raster := do
  let p ← r.read? x y
  let last ← difference? r.height 1
  let column ← difference? last y
  turned.write? column x p

/-- Writes a row of an image where it is found when the image has been turned. -/
def turnRow? (r : Raster) (y : Nat) (turned : Raster) : Option Raster :=
  (List.range r.width).foldlM (fun turned x => turnPixel? r x y turned) turned

/-- Turns an image by a quarter to the right, one pixel after the other. -/
def turn? (r : Raster) : Option Raster :=
  (List.range r.height).foldlM (fun turned y => turnRow? r y turned)
    (Raster.blank r.height r.width)

/-- Paints a text.  The baseline, which is no part of the picture, is left out. -/
def paintBlocks? (m : Metrics) (text : List Char) (style : TextStyle) : Option Raster := do
  let canvas ← paintSheet? (.ofText m text style) style.ink
  if style.vertical then turn? canvas else some canvas

theorem word?_of_lt {n : Nat} (h : n < wordCount) : word? n = some n :=
  if_pos h

theorem difference?_of_le {a b : Nat} (h : b ≤ a) : difference? a b = some (a - b) :=
  if_pos h

theorem indent?_of_le {width lineWidth : Nat} (h : lineWidth ≤ width) (align : LineAlign) :
    indent? align width lineWidth = some (indent align width lineWidth) := by
  cases align <;> simp [indent?, indent, difference?_of_le h]

/-! ## Blocks -/

namespace Sheet

/-- The sides of the image have at most thirty-two bits. -/
structure FitsWords (s : Sheet) : Prop where
  width : s.width < wordCount
  height : s.height < wordCount

variable {s : Sheet} {ink : Ink} {b : Block} {line : List Char} {row column : Nat}

theorem paintPixel?_adds (hm : s.metrics.Sound) (hs : s.FitsWords) (hb : s.Glyph b) {x y : Nat}
    (hxy : b.Contains x y) :
    Raster.Adds s.width s.height (s.pixel ink) (paintPixel? ink b x y) fun x' y' =>
      x' = x ∧ y' = y := by
  have hx : x < s.width := hxy.1.2.trans_le hb.right_le_width
  have hy : y < s.height := hxy.2.2.trans_le (hb.bottom_le_height hm)
  have hright : x + 1 < wordCount := (Nat.succ_le_of_lt hx).trans_lt hs.width
  have hbelow : y + 1 < wordCount := (Nat.succ_le_of_lt hy).trans_lt hs.height
  have hsides : b.left ≤ b.right := hxy.1.1.trans hxy.1.2.le
  intro painted canvas h
  rw [paintPixel?, word?_of_lt hright, word?_of_lt hbelow, difference?_of_le hsides,
    ← s.pixel_of_contains hm ink hb hxy]
  exact Raster.Adds.write hx hy painted canvas h

/-- A block adds its pixels to the picture. -/
theorem paintBlock?_adds (hm : s.metrics.Sound) (hs : s.FitsWords) (hb : s.Glyph b) :
    Raster.Adds s.width s.height (s.pixel ink) (paintBlock? ink b) b.Contains := by
  have hrow (y : Nat) (hy : y ∈ List.range' b.top (b.bottom - b.top)) :
      Raster.Adds s.width s.height (s.pixel ink) (paintRow? ink b y) fun x' y' =>
        ∃ x ∈ List.range' b.left (b.right - b.left), x' = x ∧ y' = y := by
    refine Raster.Adds.foldlM fun x hx => paintPixel?_adds hm hs hb ?_
    rw [List.mem_range'_1] at hx hy
    exact ⟨⟨hx.1, by omega⟩, hy.1, by omega⟩
  refine (Raster.Adds.foldlM hrow).congr fun x y => ?_
  simp only [List.mem_range'_1, Block.Contains]
  constructor
  · rintro ⟨y, hy, x, hx, rfl, rfl⟩
    omega
  · intro hxy
    exact ⟨y, by omega, x, by omega, rfl, rfl⟩

/-! ## Lines -/

theorem block?_eq (hm : s.metrics.Sound) (hs : s.FitsWords) (hline : line ∈ s.lines) (row : Nat)
    (hcolumn : column < line.length) :
    block? s.metrics (s.start line) (row * s.metrics.lineHeight + s.metrics.top)
      (row * s.metrics.lineHeight + s.metrics.top + s.metrics.ascent) column =
      some (s.metrics.block (s.start line) row column) := by
  have hcell := s.cell_le_width hline hcolumn
  have hwidth := hs.width
  have hinset := hm.two_mul_inset_lt
  simp (disch := omega) only [block?, word?_of_lt, difference?_of_le, Option.bind_eq_bind,
    Option.bind_some]
  rfl

/-- A character adds its block to the picture, if it is visible. -/
theorem paintCell?_adds (hm : s.metrics.Sound) (hs : s.FitsWords)
    (hline : s.lines[row]? = some line) {c : Char} (hc : (c, column) ∈ line.zipIdx) :
    Raster.Adds s.width s.height (s.pixel ink)
      (paintCell? s.metrics ink (s.start line) (row * s.metrics.lineHeight + s.metrics.top)
        (row * s.metrics.lineHeight + s.metrics.top + s.metrics.ascent) c column) fun x y =>
      isBlank c = false ∧ (s.metrics.block (s.start line) row column).Contains x y := by
  have hcolumn := List.mem_zipIdx_iff_getElem?.mp hc
  obtain ⟨hlt, -⟩ := List.getElem?_eq_some_iff.mp hcolumn
  intro painted canvas h
  rw [paintCell?]
  cases hvisible : isBlank c with
  | true => exact Raster.Adds.nothing.congr (by simp) painted canvas h
  | false =>
      have hb := Glyph.mk hline hcolumn hvisible
      have hbottom : row * s.metrics.lineHeight + s.metrics.top + s.metrics.ascent ≤ s.height :=
        hb.bottom_le_height hm
      rw [if_neg (by simp), h.height_eq, Nat.min_eq_left hbottom,
        block?_eq hm hs (List.mem_of_getElem? hline) row hlt]
      exact (paintBlock?_adds hm hs hb).congr (by simp) painted canvas h

/-- A line adds the blocks of its visible characters to the picture. -/
theorem paintLine?_adds (hm : s.metrics.Sound) (hs : s.FitsWords)
    (hline : s.lines[row]? = some line) :
    Raster.Adds s.width s.height (s.pixel ink) (paintLine? s.metrics s.align ink line row)
      fun x y => ∃ a ∈ line.zipIdx, isBlank a.1 = false ∧
        (s.metrics.block (s.start line) row a.2).Contains x y := by
  obtain ⟨hrow, -⟩ := List.getElem?_eq_some_iff.mp hline
  have hwidth := hs.width
  have hheight := hs.height
  have hend := s.start_add_le (List.mem_of_getElem? hline)
  have hbottom := s.cell_le_height hrow
  have hfits := hm.fits
  have hstart : indent? s.align s.width (line.length * s.metrics.cellWidth) =
      some (s.start line) :=
    indent?_of_le (by omega) _
  intro painted canvas h
  simp (disch := omega) only [paintLine?, h.width_eq, hstart, word?_of_lt, Option.bind_eq_bind,
    Option.bind_some]
  exact Raster.Adds.foldlM (fun a ha => paintCell?_adds hm hs hline ha) painted canvas h

/-! ## Images -/

/-- Lines that are painted are their image. -/
theorem paintSheet?_eq (hm : s.metrics.Sound) (hs : s.FitsWords) (ink : Ink) :
    paintSheet? s ink = some (Raster.ofFn s.width s.height 0 (s.pixel ink)) := by
  have hline (a : List Char × Nat) (ha : a ∈ s.lines.zipIdx) :
      Raster.Adds s.width s.height (s.pixel ink) (paintLine? s.metrics s.align ink a.1 a.2)
        fun x y => ∃ c ∈ a.1.zipIdx, isBlank c.1 = false ∧
          (s.metrics.block (s.start a.1) a.2 c.2).Contains x y :=
    paintLine?_adds hm hs (List.mem_zipIdx_iff_getElem?.mp ha)
  have hcanvas : (s.lines.zipIdx.foldlM (fun canvas a =>
      paintLine? s.metrics s.align ink a.1 a.2 canvas) (Raster.blank s.width s.height)) =
        some (Raster.ofFn s.width s.height 0 (s.pixel ink)) := by
    refine (Raster.Adds.foldlM hline).eq_ofFn fun x _ y _ hxy => s.pixel_of_not_contains hm ink ?_
    -- what has not been painted lies in no block
    rintro b @⟨row, column, line, c, atRow, atColumn, visible⟩ hcontains
    exact hxy ⟨(line, row), List.mem_zipIdx_iff_getElem?.mpr atRow, (c, column),
      List.mem_zipIdx_iff_getElem?.mpr atColumn, visible, hcontains⟩
  have hbaseline : s.metrics.top + s.metrics.ascent < wordCount :=
    (hm.fits.trans s.lineHeight_le_height).trans_lt hs.height
  simp only [paintSheet?, word?_of_lt hs.width, word?_of_lt hs.height, word?_of_lt hbaseline,
    hcanvas, Option.bind_eq_bind, Option.bind_some]

end Sheet

/-! ## Images that are turned -/

section Turning

variable {r : Raster} {x y : Nat}

theorem turnPixel?_adds (h : r.isWellFormed = true) (hx : x < r.width) (hy : y < r.height) :
    Raster.Adds r.height r.width (fun x y => r.pixel y (r.height - 1 - x)) (turnPixel? r x y)
      fun x' y' => x' = r.height - 1 - y ∧ y' = x := by
  have hback : r.height - 1 - (r.height - 1 - y) = y := by omega
  have hwrite : Raster.Adds r.height r.width (fun x y => r.pixel y (r.height - 1 - x))
      (fun turned => turned.write? (r.height - 1 - y) x
        (r.pixel x (r.height - 1 - (r.height - 1 - y))))
      fun x' y' => x' = r.height - 1 - y ∧ y' = x :=
    .write (by omega) hx
  rw [hback] at hwrite
  intro painted turned hturned
  simpa (disch := omega) only [turnPixel?, Raster.read?_of_lt h hx hy, difference?_of_le,
    Option.bind_eq_bind, Option.bind_some] using hwrite painted turned hturned

/-- An image that is turned pixel by pixel is the turned image. -/
theorem turn?_eq (h : r.isWellFormed = true) : turn? r = some r.rotatedClockwise := by
  have hrow (y : Nat) (hy : y ∈ List.range r.height) :
      Raster.Adds r.height r.width (fun x y => r.pixel y (r.height - 1 - x)) (turnRow? r y)
        fun x' y' => ∃ x ∈ List.range r.width, x' = r.height - 1 - y ∧ y' = x :=
    Raster.Adds.foldlM fun x hx =>
      turnPixel?_adds h (List.mem_range.mp hx) (List.mem_range.mp hy)
  refine (Raster.Adds.foldlM hrow).eq_ofFn fun x hx y hy hxy => ?_
  have hlast : r.height - 1 - x < r.height := by omega
  exact absurd ⟨r.height - 1 - x, List.mem_range.mpr hlast, y, List.mem_range.mpr hy,
    by omega, rfl⟩ hxy

end Turning

/-- Painting a text gives its image, without the baseline. -/
theorem paintBlocks?_eq {m : Metrics} {text : List Char} {style : TextStyle} (hm : m.Sound)
    (hs : (Sheet.ofText m text style).FitsWords) :
    paintBlocks? m text style = some { drawBlocks m text style with baseline := 0 } := by
  rw [paintBlocks?, Sheet.paintSheet?_eq hm hs, Option.bind_eq_bind, Option.bind_some, drawBlocks,
    Sheet.drawLines_eq]
  cases style.vertical with
  | false => rfl
  | true =>
      rw [if_pos rfl, turn?_eq (Raster.isWellFormed_ofFn ..)]
      rfl

end Captioning
