import Captioning.Render.Raster

/-!
# Writing pixels

An image is an array of bytes.  To write a pixel into it is to write four bytes at the address of
the pixel, which fails if the array ends before.  In an image that has as many bytes as its size
demands the addresses of all its pixels are there, and writing one pixel leaves the others alone.
A picture may be painted in this way in any order, as long as each pixel is written in its colour.
-/

namespace Captioning

namespace Raster

/-- An image without ink. -/
def blank (width height : Nat) : Raster :=
  ⟨width, height, 0, Array.replicate (width * height * 4) 0⟩

/-- Where the bytes of a pixel begin. -/
def address (r : Raster) (x y : Nat) : Nat :=
  (y * r.width + x) * 4

/-- The bytes after the four bytes of a pixel have been written. -/
def overwrite (bytes : Array UInt8) (i : Nat) (p : Pixel) : Array UInt8 :=
  (((bytes.setIfInBounds i (p.byte 0)).setIfInBounds (i + 1) (p.byte 1)).setIfInBounds (i + 2)
    (p.byte 2)).setIfInBounds (i + 3) (p.byte 3)

/-- The image after a pixel has been written. -/
def put (r : Raster) (x y : Nat) (p : Pixel) : Raster :=
  { r with pixels := overwrite r.pixels (r.address x y) p }

/-- Writes a pixel, if all of its bytes are there. -/
def write? (r : Raster) (x y : Nat) (p : Pixel) : Option Raster :=
  if r.address x y + 4 ≤ r.pixels.size then some (r.put x y p) else none

/-- Reads a pixel, if all of its bytes are there. -/
def read? (r : Raster) (x y : Nat) : Option Pixel :=
  if r.address x y + 4 ≤ r.pixels.size then some (r.pixel x y) else none

variable {r r' : Raster} {p : Pixel} {x y x' y' width height : Nat}

/-! ## Addresses -/

theorem cell_lt (hx : x < width) (hy : y < height) : y * width + x < width * height := by
  calc y * width + x < y * width + width := Nat.add_lt_add_left hx _
    _ = (y + 1) * width := (Nat.add_one_mul _ _).symm
    _ ≤ height * width := Nat.mul_le_mul_right _ hy
    _ = width * height := Nat.mul_comm _ _

theorem isWellFormed_iff : r.isWellFormed = true ↔ r.pixels.size = r.width * r.height * 4 :=
  decide_eq_true_iff

theorem address_add_four_le (h : r.isWellFormed = true) (hx : x < r.width) (hy : y < r.height) :
    r.address x y + 4 ≤ r.pixels.size := by
  have hcell := cell_lt hx hy
  rw [address, isWellFormed_iff.mp h]
  omega

theorem column_of_cell (hx : x < width) (y : Nat) : (y * width + x) % width = x := by
  rw [Nat.add_comm, Nat.add_mul_mod_self_right, Nat.mod_eq_of_lt hx]

theorem row_of_cell (hx : x < width) (y : Nat) : (y * width + x) / width = y := by
  rw [Nat.add_comm, Nat.add_mul_div_right _ _ (Nat.zero_lt_of_lt hx), Nat.div_eq_of_lt hx,
    Nat.zero_add]

/-! ## Pixels -/

theorem pixel_eq_iff :
    r.pixel x y = p ↔ ∀ k < 4, r.pixels.getD (r.address x y + k) 0 = p.byte k := by
  constructor
  · rintro rfl k hk
    obtain rfl | rfl | rfl | rfl : k = 0 ∨ k = 1 ∨ k = 2 ∨ k = 3 := by omega
    all_goals rfl
  · intro h
    exact (Pixel.mk.injEq ..).mpr
      ⟨h 0 (by decide), h 1 (by decide), h 2 (by decide), h 3 (by decide)⟩

theorem pixel_ofFn (baseline : Int) (f : Nat → Nat → Pixel) (hx : x < width) (hy : y < height) :
    (ofFn width height baseline f).pixel x y = f x y := by
  have hcell := cell_lt hx hy
  rw [pixel_eq_iff]
  intro k hk
  have haddress : (ofFn width height baseline f).address x y = (y * width + x) * 4 := rfl
  have hlt : (y * width + x) * 4 + k < width * height * 4 := by omega
  have hdiv : ((y * width + x) * 4 + k) / 4 = y * width + x := by omega
  have hmod : ((y * width + x) * 4 + k) % 4 = k := by omega
  rw [haddress]
  simp [ofFn, Array.getD_eq_getD_getElem?, Array.getElem?_ofFn, hlt, hdiv, hmod, hcell,
    column_of_cell hx, row_of_cell hx]

theorem pixel_blank (width height x y : Nat) : (blank width height).pixel x y = .transparent := by
  have hbyte (i : Nat) : (Array.replicate (width * height * 4) (0 : UInt8)).getD i 0 = 0 := by
    rw [Array.getD_eq_getD_getElem?, Array.getElem?_replicate]
    split <;> rfl
  simp only [pixel, blank, hbyte, Pixel.transparent]

/-- An image is determined by its size, its baseline and its pixels. -/
theorem eq_of_pixel (h : r.isWellFormed = true) (h' : r'.isWellFormed = true)
    (hwidth : r.width = r'.width) (hheight : r.height = r'.height)
    (hbaseline : r.baseline = r'.baseline)
    (hpixel : ∀ x < r.width, ∀ y < r.height, r.pixel x y = r'.pixel x y) : r = r' := by
  rw [isWellFormed_iff] at h h'
  have hbytes : r.pixels = r'.pixels := by
    refine Array.ext (by rw [h, h', hwidth, hheight]) fun i hi hi' => ?_
    have hcell : i / 4 < r.width * r.height := by omega
    have hr : 0 < r.width := Nat.pos_of_mul_pos_right (Nat.zero_lt_of_lt hcell)
    have hsame := hpixel _ (Nat.mod_lt (i / 4) hr) _ (Nat.div_lt_of_lt_mul hcell)
    have haddress : r.address (i / 4 % r.width) (i / 4 / r.width) + i % 4 = i := by
      rw [address, Nat.div_add_mod', Nat.div_add_mod']
    have haddress' : r'.address (i / 4 % r.width) (i / 4 / r.width) + i % 4 = i := by
      rw [address, ← hwidth, Nat.div_add_mod', Nat.div_add_mod']
    have hk : i % 4 < 4 := Nat.mod_lt _ (by decide)
    have hbyte := (pixel_eq_iff.mp hsame _ hk).trans (pixel_eq_iff.mp rfl _ hk).symm
    rw [haddress, haddress'] at hbyte
    simpa [Array.getD, hi, hi'] using hbyte
  exact (Raster.mk.injEq ..).mpr ⟨hwidth, hheight, hbaseline, hbytes⟩

theorem isWellFormed_blank (width height : Nat) : (blank width height).isWellFormed = true := by
  simp [blank, isWellFormed, expectedSize]

/-! ## Writing -/

@[simp] theorem size_overwrite (bytes : Array UInt8) (i : Nat) (p : Pixel) :
    (overwrite bytes i p).size = bytes.size := by
  simp [overwrite]

theorem getD_overwrite_of_mem {bytes : Array UInt8} {i k : Nat} (h : i + 4 ≤ bytes.size)
    (hk : k < 4) (p : Pixel) : (overwrite bytes i p).getD (i + k) 0 = p.byte k := by
  have hbound (l : Nat) (hl : l < 4) : i + l < bytes.size := by omega
  obtain rfl | rfl | rfl | rfl : k = 0 ∨ k = 1 ∨ k = 2 ∨ k = 3 := by omega
  all_goals
    simp [overwrite, Array.getD_eq_getD_getElem?, hbound,
      Nat.lt_of_lt_of_le (Nat.lt_add_of_pos_right (by decide : 0 < 4)) h]

theorem getD_overwrite_of_notMem {bytes : Array UInt8} {i j : Nat} (h : j < i ∨ i + 4 ≤ j)
    (p : Pixel) : (overwrite bytes i p).getD j 0 = bytes.getD j 0 := by
  have hne : i ≠ j ∧ i + 1 ≠ j ∧ i + 2 ≠ j ∧ i + 3 ≠ j := by omega
  simp [overwrite, Array.getD_eq_getD_getElem?, hne]

theorem size_put (r : Raster) (x y : Nat) (p : Pixel) :
    (r.put x y p).width = r.width ∧ (r.put x y p).height = r.height ∧
      (r.put x y p).baseline = r.baseline := by
  unfold put
  exact ⟨rfl, rfl, rfl⟩

theorem address_put (r : Raster) (x y : Nat) (p : Pixel) (x' y' : Nat) :
    (r.put x y p).address x' y' = r.address x' y' := by
  rw [address, (size_put r x y p).1, address]

/-- Writing a pixel leaves the bytes of the other ones alone. -/
theorem pixel_put_of_ne (hx : x < r.width) (hx' : x' < r.width) (hne : (x', y') ≠ (x, y)) :
    (r.put x y p).pixel x' y' = r.pixel x' y' := by
  have hcell : y' * r.width + x' ≠ y * r.width + x := by
    intro hsame
    refine hne (Prod.ext ?_ ?_)
    · rw [← column_of_cell hx' y', hsame, column_of_cell hx]
    · rw [← row_of_cell hx' y', hsame, row_of_cell hx]
  refine pixel_eq_iff.mpr fun k hk => ?_
  rw [address_put, put, getD_overwrite_of_notMem (by simp only [address]; omega)]
  exact pixel_eq_iff.mp rfl k hk

theorem pixel_put (h : r.isWellFormed = true) (hx : x < r.width) (hy : y < r.height) (p : Pixel) :
    (r.put x y p).pixel x y = p := by
  refine pixel_eq_iff.mpr fun k hk => ?_
  rw [address_put, put, getD_overwrite_of_mem (address_add_four_le h hx hy) hk]

theorem isWellFormed_put (h : r.isWellFormed = true) (x y : Nat) (p : Pixel) :
    (r.put x y p).isWellFormed = true := by
  rw [isWellFormed_iff] at h ⊢
  rw [put, size_overwrite]
  exact h

theorem write?_of_lt (h : r.isWellFormed = true) (hx : x < r.width) (hy : y < r.height)
    (p : Pixel) : r.write? x y p = some (r.put x y p) := by
  rw [write?, if_pos (address_add_four_le h hx hy)]

theorem read?_of_lt (h : r.isWellFormed = true) (hx : x < r.width) (hy : y < r.height) :
    r.read? x y = some (r.pixel x y) := by
  rw [read?, if_pos (address_add_four_le h hx hy)]

/-! ## Pictures -/

/-- An image of a given size shows a picture as far as it is painted, and nothing elsewhere. -/
structure Paints (width height : Nat) (picture : Nat → Nat → Pixel) (painted : Nat → Nat → Prop)
    (r : Raster) : Prop where
  width_eq : r.width = width
  height_eq : r.height = height
  baseline_eq : r.baseline = 0
  wellFormed : r.isWellFormed = true
  shown : ∀ x < width, ∀ y < height, painted x y → r.pixel x y = picture x y
  empty : ∀ x < width, ∀ y < height, ¬ painted x y → r.pixel x y = .transparent

/-- A painter adds a part to a picture, whatever has been painted before. -/
def Adds (width height : Nat) (picture : Nat → Nat → Pixel) (paint : Raster → Option Raster)
    (part : Nat → Nat → Prop) : Prop :=
  ∀ painted r, Paints width height picture painted r → ∃ r', paint r = some r' ∧
    Paints width height picture (fun x y => painted x y ∨ part x y) r'

variable {picture : Nat → Nat → Pixel} {painted painted' : Nat → Nat → Prop}

theorem paints_blank (width height : Nat) (picture : Nat → Nat → Pixel) :
    Paints width height picture (fun _ _ => False) (blank width height) where
  width_eq := rfl
  height_eq := rfl
  baseline_eq := rfl
  wellFormed := isWellFormed_blank width height
  shown _ _ _ _ h := h.elim
  empty x _ y _ _ := pixel_blank width height x y

theorem Paints.congr (h : Paints width height picture painted r)
    (hpainted : ∀ x y, painted x y ↔ painted' x y) : Paints width height picture painted' r where
  width_eq := h.width_eq
  height_eq := h.height_eq
  baseline_eq := h.baseline_eq
  wellFormed := h.wellFormed
  shown x hx y hy hxy := h.shown x hx y hy ((hpainted x y).mpr hxy)
  empty x hx y hy hxy := h.empty x hx y hy (mt (hpainted x y).mp hxy)

/-- An image to which nothing is missing. -/
theorem Paints.eq_ofFn (h : Paints width height picture painted r)
    (hrest : ∀ x < width, ∀ y < height, ¬ painted x y → picture x y = .transparent) :
    r = ofFn width height 0 picture := by
  obtain ⟨rfl, rfl, hbaseline, hr, hshown, hempty⟩ := h
  refine eq_of_pixel hr (isWellFormed_ofFn ..) rfl rfl hbaseline fun x hx y hy => ?_
  rw [pixel_ofFn 0 picture hx hy]
  by_cases hxy : painted x y
  · exact hshown x hx y hy hxy
  · rw [hempty x hx y hy hxy, hrest x hx y hy hxy]

namespace Adds

variable {paint : Raster → Option Raster} {part part' : Nat → Nat → Prop}

theorem congr (h : Adds width height picture paint part)
    (hpart : ∀ x y, part x y ↔ part' x y) : Adds width height picture paint part' := by
  intro painted r hr
  obtain ⟨r', hr', hpaints⟩ := h painted r hr
  exact ⟨r', hr', hpaints.congr fun x y => or_congr_right (hpart x y)⟩

theorem nothing : Adds width height picture some fun _ _ => False := by
  intro painted r hr
  exact ⟨r, rfl, hr.congr fun x y => (or_iff_left id).symm⟩

/-- One more pixel of the picture is painted. -/
theorem write (hx : x < width) (hy : y < height) :
    Adds width height picture (fun r => r.write? x y (picture x y)) fun x' y' =>
      x' = x ∧ y' = y := by
  rintro painted r ⟨rfl, rfl, hbaseline, hr, hshown, hempty⟩
  obtain ⟨hwidth, hheight, hsame⟩ := size_put r x y (picture x y)
  refine ⟨_, write?_of_lt hr hx hy _, hwidth, hheight, hsame.trans hbaseline,
    isWellFormed_put hr x y _, ?_, ?_⟩
  · intro x' hx' y' hy' hxy
    by_cases hsame : (x', y') = (x, y)
    · obtain ⟨rfl, rfl⟩ := Prod.mk.inj hsame
      exact pixel_put hr hx hy _
    · rw [pixel_put_of_ne hx hx' hsame]
      exact hshown x' hx' y' hy' (hxy.resolve_right fun heq => hsame (Prod.ext heq.1 heq.2))
  · intro x' hx' y' hy' hxy
    rw [not_or] at hxy
    rw [pixel_put_of_ne hx hx' fun heq => hxy.2 (Prod.mk.inj heq)]
    exact hempty x' hx' y' hy' hxy.1

/-- Parts of the picture are painted one after the other. -/
theorem foldlM {α : Type} {paint : α → Raster → Option Raster} {part : α → Nat → Nat → Prop}
    {items : List α} (h : ∀ a ∈ items, Adds width height picture (paint a) (part a)) :
    Adds width height picture (fun r => items.foldlM (fun r a => paint a r) r) fun x y =>
      ∃ a ∈ items, part a x y := by
  induction items with
  | nil => exact nothing.congr (by simp)
  | cons a items ih =>
      intro painted r hr
      obtain ⟨middle, hmiddle, hpaints⟩ := h a List.mem_cons_self painted r hr
      obtain ⟨last, hlast, hdone⟩ :=
        ih (fun b hb => h b (List.mem_cons_of_mem _ hb)) _ middle hpaints
      refine ⟨last, ?_, hdone.congr (by simp [or_assoc])⟩
      simp only [List.foldlM_cons, hmiddle]
      exact hlast

/-- A painter that adds all that is to be seen paints the picture. -/
theorem eq_ofFn (h : Adds width height picture paint part)
    (hrest : ∀ x < width, ∀ y < height, ¬ part x y → picture x y = .transparent) :
    paint (blank width height) = some (ofFn width height 0 picture) := by
  obtain ⟨r, hr, hpaints⟩ := h _ _ (paints_blank width height picture)
  rw [hr, hpaints.eq_ofFn fun x hx y hy hxy => hrest x hx y hy (mt .inr hxy)]

end Adds

end Raster

end Captioning
