import Captioning.Proofs.Render.Wrapping
import Captioning.Render.BlockGlyphs

/-!
# The glyphs of a text

Lines are laid out in cells of one size.  In each cell with a visible character stands its glyph, a
block that keeps away from the sides of the cell.  The image of the lines shows these blocks and
nothing else: its pixels are defined by what stands in their cells, and here they are told by the
block in which they lie.
-/

namespace Captioning

/-! ## Blocks -/

/-- The pixels from a first column and a first row on, before a last column and a last row. -/
structure Block where
  left : Nat
  right : Nat
  top : Nat
  bottom : Nat
  deriving DecidableEq

namespace Block

variable (b : Block) (x y : Nat)

/-- A pixel lies in a block. -/
def Contains : Prop :=
  (b.left ≤ x ∧ x < b.right) ∧ b.top ≤ y ∧ y < b.bottom

/-- A pixel of a block lies in its first or last column, or in its first or last row. -/
def Borders : Prop :=
  (x = b.left ∨ x + 1 = b.right) ∨ y = b.top ∨ y + 1 = b.bottom

instance : Decidable (b.Contains x y) :=
  inferInstanceAs (Decidable (_ ∧ _))

instance : Decidable (b.Borders x y) :=
  inferInstanceAs (Decidable (_ ∨ _))

/-- The colour of a pixel of a block: that of the outline on the border of a block more than two
pixels wide. -/
def pixel (ink : Ink) : Pixel :=
  if b.Borders x y ∧ 2 < b.right - b.left then ink.outline else ink.fill

end Block

/-! ## Metrics -/

/-- Cells have pixels, and blocks have a place in their lines. -/
structure Metrics.Sound (m : Metrics) : Prop where
  cellWidth : 1 ≤ m.cellWidth
  lineHeight : 1 ≤ m.lineHeight
  fits : m.top + m.ascent ≤ m.lineHeight

namespace Metrics

variable {m : Metrics}

theorem Sound.two_mul_inset_lt (hm : m.Sound) : 2 * m.inset < m.cellWidth := by
  have hcell := hm.cellWidth
  unfold inset
  split <;> omega

/-- The block of the cell in a column and a row, in a line that begins at `start`. -/
def block (m : Metrics) (start row column : Nat) : Block where
  left := start + column * m.cellWidth + m.inset
  right := start + column * m.cellWidth + m.cellWidth - m.inset
  top := row * m.lineHeight + m.top
  bottom := row * m.lineHeight + m.top + m.ascent

theorem contains_block_iff (m : Metrics) (start row column dx dy : Nat) :
    (m.block start row column).Contains (start + column * m.cellWidth + dx)
      (row * m.lineHeight + dy) ↔ m.inBlock dx dy = true := by
  simp only [Block.Contains, block, inBlock, Bool.and_eq_true, decide_eq_true_eq]
  omega

theorem lt_of_inBlock (hm : m.Sound) {dx dy : Nat} (h : m.inBlock dx dy = true) :
    dx < m.cellWidth ∧ dy < m.lineHeight := by
  have hfits := hm.fits
  simp only [inBlock, Bool.and_eq_true, decide_eq_true_eq] at h
  omega

/-- The cell of a pixel in a block is the cell of the block. -/
theorem contains_block_iff_cell (hm : m.Sound) {start row column x y : Nat} :
    (m.block start row column).Contains x y ↔
      y / m.lineHeight = row ∧ start ≤ x ∧ (x - start) / m.cellWidth = column ∧
        m.inBlock ((x - start) % m.cellWidth) (y % m.lineHeight) = true := by
  constructor
  · intro h
    have hplace : start + column * m.cellWidth ≤ x ∧ row * m.lineHeight ≤ y := by
      simp only [Block.Contains, block] at h
      omega
    obtain ⟨dx, rfl⟩ := Nat.exists_eq_add_of_le hplace.1
    obtain ⟨dy, rfl⟩ := Nat.exists_eq_add_of_le hplace.2
    rw [contains_block_iff] at h
    obtain ⟨hdx, hdy⟩ := lt_of_inBlock hm h
    rw [Nat.add_assoc, Nat.add_sub_cancel_left, Nat.add_comm (row * _),
      Nat.add_comm (column * _), Nat.add_mul_div_right _ _ hm.lineHeight,
      Nat.add_mul_div_right _ _ hm.cellWidth, Nat.add_mul_mod_self_right,
      Nat.add_mul_mod_self_right, Nat.mod_eq_of_lt hdx, Nat.mod_eq_of_lt hdy,
      Nat.div_eq_of_lt hdx, Nat.div_eq_of_lt hdy]
    exact ⟨Nat.zero_add _, Nat.le_add_right _ _, Nat.zero_add _, h⟩
  · rintro ⟨rfl, hstart, rfl, h⟩
    rw [← contains_block_iff m start (y / m.lineHeight) ((x - start) / m.cellWidth),
      Nat.add_assoc, Nat.div_add_mod', Nat.div_add_mod', Nat.add_sub_cancel' hstart] at h
    exact h

/-- What a cell shows in its block. -/
theorem blockPixel_of_inBlock (hm : m.Sound) (ink : Ink) (start row column : Nat) {dx dy : Nat}
    (h : m.inBlock dx dy = true) :
    m.blockPixel ink dx dy = (m.block start row column).pixel (start + column * m.cellWidth + dx)
      (row * m.lineHeight + dy) ink := by
  have hinset := hm.two_mul_inset_lt
  have hborder : (m.block start row column).Borders (start + column * m.cellWidth + dx)
      (row * m.lineHeight + dy) ↔ m.onBorder dx dy = true := by
    simp only [Block.Borders, block, onBorder, Bool.or_eq_true, decide_eq_true_eq]
    omega
  have hwidth : (m.block start row column).right - (m.block start row column).left =
      m.cellWidth - 2 * m.inset := by
    simp only [block]
    omega
  simp only [blockPixel, h, Bool.not_true, Bool.false_eq_true, if_false, Block.pixel, hborder,
    hwidth, Bool.and_eq_true, decide_eq_true_eq]

end Metrics

/-! ## Lines in cells -/

/-- Lines that are laid out in cells. -/
structure Sheet where
  metrics : Metrics
  align : LineAlign
  lines : List (List Char)

/-- The colours of glyphs in a style. -/
def TextStyle.ink (style : TextStyle) : Ink :=
  ⟨Pixel.ofArgb style.color, Pixel.ofArgb style.outlineColor⟩

namespace Sheet

variable {s : Sheet} {b b' : Block} {line : List Char} {row column x y : Nat}

/-- The width of the image. -/
def width (s : Sheet) : Nat :=
  longestLine s.lines * s.metrics.cellWidth

/-- The height of the image. -/
def height (s : Sheet) : Nat :=
  max s.lines.length 1 * s.metrics.lineHeight

/-- Where a line begins. -/
def start (s : Sheet) (line : List Char) : Nat :=
  indent s.align s.width (line.length * s.metrics.cellWidth)

/-- A block belongs to a visible character of a line. -/
inductive Glyph (s : Sheet) : Block → Prop
  | mk {row column : Nat} {chars : List Char} {c : Char} (atRow : s.lines[row]? = some chars)
      (atColumn : chars[column]? = some c) (visible : isBlank c = false) :
      Glyph s (s.metrics.block (s.start chars) row column)

/-- The pixels of the image. -/
def pixel (s : Sheet) (ink : Ink) (x y : Nat) : Pixel :=
  glyphPixel s.metrics s.align ink (s.lines.map List.toArray).toArray s.width x y

/-- The lines of a text in a style. -/
def ofText (m : Metrics) (text : List Char) (style : TextStyle) : Sheet :=
  ⟨m, style.lineAlign, layoutLines text style m⟩

theorem drawLines_eq (m : Metrics) (text : List Char) (style : TextStyle) :
    drawLines m style (layoutLines text style m) =
      Raster.ofFn (ofText m text style).width (ofText m text style).height
        (m.top + m.ascent : Nat) ((ofText m text style).pixel style.ink) :=
  rfl

/-! ## The size of the image -/

/-- The longest line has as many characters as the longest of the lines, but at least one. -/
theorem longestLine_eq (lines : List (List Char)) :
    longestLine lines = max 1 ((lines.map List.length).max?.getD 0) := by
  rw [longestLine, ← List.foldl_map, List.foldl_max]
  cases (lines.map List.length).max? with
  | none => rfl
  | some n => rfl

theorem length_le_longestLine {lines : List (List Char)} (h : line ∈ lines) :
    line.length ≤ longestLine lines := by
  rw [longestLine_eq]
  exact (List.le_max?_getD_of_mem (List.mem_map_of_mem h)).trans (le_max_right _ _)

theorem wrapLine_ne_nil (size : Nat) (mode : WrapMode) (line : List Char) :
    wrapLine size mode line ≠ [] := by
  unfold wrapLine
  split
  next => exact List.cons_ne_nil _ _
  next hlong =>
    split
    · exact chunks_ne_nil fun hnil => hlong (.inr (by simp [hnil]))
    · obtain ⟨first, others, hrows, -⟩ := wrapWords_head size mode [] (line.splitOn ' ')
      rw [hrows]
      exact List.cons_ne_nil _ _

theorem layoutLines_ne_nil (text : List Char) (style : TextStyle) (m : Metrics) :
    layoutLines text style m ≠ [] := by
  have hlines := List.splitOn_ne_nil '\n' (shownText text style)
  unfold layoutLines wrapText
  cases m.lineLimit? style with
  | none => exact hlines
  | some size =>
      obtain ⟨line, lines, hsplit⟩ := List.exists_cons_of_ne_nil hlines
      simp only [hsplit, List.flatMap_cons]
      exact List.append_ne_nil_of_left_ne_nil (wrapLine_ne_nil size style.wrapMode line) _

theorem height_ofText (m : Metrics) (text : List Char) (style : TextStyle) :
    (ofText m text style).height = (layoutLines text style m).length * m.lineHeight := by
  have hpos := List.length_pos_iff.mpr (layoutLines_ne_nil text style m)
  rw [height, ofText, Nat.max_eq_left hpos]

theorem start_add_le (hline : line ∈ s.lines) :
    s.start line + line.length * s.metrics.cellWidth ≤ s.width := by
  have hwidth : line.length * s.metrics.cellWidth ≤ s.width :=
    Nat.mul_le_mul_right _ (length_le_longestLine hline)
  rw [start]
  cases s.align <;> dsimp only [indent] <;> omega

/-! ## Blocks in the image -/

theorem cell_le_width (hline : line ∈ s.lines) (hcolumn : column < line.length) :
    s.start line + column * s.metrics.cellWidth + s.metrics.cellWidth ≤ s.width := by
  have hcells : (column + 1) * s.metrics.cellWidth ≤ line.length * s.metrics.cellWidth :=
    Nat.mul_le_mul_right _ hcolumn
  rw [Nat.add_one_mul] at hcells
  have hend := start_add_le hline
  omega

theorem lineHeight_le_height (s : Sheet) : s.metrics.lineHeight ≤ s.height :=
  Nat.le_mul_of_pos_left _ (Nat.lt_of_lt_of_le Nat.one_pos (le_max_right _ _))

theorem cell_le_height (hrow : row < s.lines.length) :
    row * s.metrics.lineHeight + s.metrics.lineHeight ≤ s.height := by
  rw [← Nat.add_one_mul]
  exact Nat.mul_le_mul_right _ (Nat.le_trans hrow (le_max_left _ _))

theorem Glyph.right_le_width (h : s.Glyph b) : b.right ≤ s.width := by
  obtain ⟨atRow, atColumn, -⟩ := h
  obtain ⟨hcolumn, -⟩ := List.getElem?_eq_some_iff.mp atColumn
  exact (Nat.sub_le _ _).trans (cell_le_width (List.mem_of_getElem? atRow) hcolumn)

theorem Glyph.bottom_le_height (hm : s.metrics.Sound) (h : s.Glyph b) : b.bottom ≤ s.height := by
  obtain @⟨row, column, line, c, atRow, -, -⟩ := h
  obtain ⟨hrow, -⟩ := List.getElem?_eq_some_iff.mp atRow
  have hfits := hm.fits
  have hbottom := cell_le_height hrow
  simp only [Metrics.block]
  omega

/-- Blocks do not overlap. -/
theorem glyph_unique (hm : s.metrics.Sound) (h : s.Glyph b) (h' : s.Glyph b')
    (hxy : b.Contains x y) (hxy' : b'.Contains x y) : b = b' := by
  obtain @⟨row, column, line, c, atRow, -, -⟩ := h
  obtain @⟨row', column', line', c', atRow', -, -⟩ := h'
  obtain ⟨rfl, -, rfl, -⟩ := (Metrics.contains_block_iff_cell hm).mp hxy
  obtain ⟨rfl, -, rfl, -⟩ := (Metrics.contains_block_iff_cell hm).mp hxy'
  obtain rfl := Option.some.inj (atRow.symm.trans atRow')
  rfl

/-! ## What the image shows -/

theorem pixel_of_none (h : s.lines[y / s.metrics.lineHeight]? = none) (ink : Ink) (x : Nat) :
    s.pixel ink x y = .transparent := by
  rw [pixel, glyphPixel, List.getElem?_toArray, List.getElem?_map, h]
  rfl

theorem pixel_of_some {chars : List Char}
    (h : s.lines[y / s.metrics.lineHeight]? = some chars) (ink : Ink) (x : Nat) :
    s.pixel ink x y =
      if x < s.start chars then .transparent
      else match chars[(x - s.start chars) / s.metrics.cellWidth]? with
        | none => .transparent
        | some c =>
            if isBlank c then .transparent
            else s.metrics.blockPixel ink ((x - s.start chars) % s.metrics.cellWidth)
              (y % s.metrics.lineHeight) := by
  rw [pixel, glyphPixel, List.getElem?_toArray, List.getElem?_map, h]
  simp only [Option.map_some, List.getElem?_toArray, List.size_toArray]
  rfl

/-- In a block the image shows the block. -/
theorem pixel_of_contains (hm : s.metrics.Sound) (ink : Ink) (h : s.Glyph b)
    (hxy : b.Contains x y) : s.pixel ink x y = b.pixel x y ink := by
  obtain @⟨row, column, line, c, atRow, atColumn, visible⟩ := h
  obtain ⟨rfl, hstart, rfl, hblock⟩ := (Metrics.contains_block_iff_cell hm).mp hxy
  have hpixel := Metrics.blockPixel_of_inBlock hm ink (s.start line) (y / s.metrics.lineHeight)
    ((x - s.start line) / s.metrics.cellWidth) hblock
  rw [Nat.add_assoc, Nat.div_add_mod', Nat.div_add_mod', Nat.add_sub_cancel' hstart] at hpixel
  rw [pixel_of_some atRow, if_neg (Nat.not_lt.mpr hstart), atColumn, ← hpixel]
  exact if_neg (by simp [visible])

/-- Outside of all blocks the image shows nothing. -/
theorem pixel_of_not_contains (hm : s.metrics.Sound) (ink : Ink)
    (h : ∀ b, s.Glyph b → ¬ b.Contains x y) : s.pixel ink x y = .transparent := by
  cases hline : s.lines[y / s.metrics.lineHeight]? with
  | none => exact pixel_of_none hline ink x
  | some line =>
      rw [pixel_of_some hline]
      split
      · rfl
      next hstart =>
        split
        · rfl
        next c hc =>
          split
          · rfl
          next hvisible =>
            -- the pixel lies in a cell with a visible character, but beside the block
            have hbeside := h _ (.mk hline hc (by simpa using hvisible))
            rw [Metrics.contains_block_iff_cell hm] at hbeside
            simp only [true_and, not_and] at hbeside
            simp [Metrics.blockPixel, hbeside (Nat.not_lt.mp hstart)]

end Sheet

end Captioning
