import Captioning.Proofs.Compositing.Accesses
import Captioning.Proofs.Video.Colors
import Mathlib.Algebra.Order.BigOperators.Group.List

/-!
# Chroma that blocks share

The chroma of a block is mixed once, with the mean colour of the pixels of the image that fall on
the block.  Each of them counts by its alpha, and the mean alpha is taken over all pixels of the
block, whether something falls on them or not.
-/

namespace Captioning

namespace VideoFrame

variable {info : VideoInfo} {shared : SharedChroma} {image : Raster} {x y : Int}
  {column row : Nat}

/-! ## The pixels of a block -/

/-- The places of an image that fall on pixels of the frame in a block. -/
def placesOn (info : VideoInfo) (shared : SharedChroma) (image : Raster) (x y : Int)
    (column row : Nat) : Finset (Nat × Nat) :=
  (Finset.range image.width ×ˢ Finset.range image.height).filter fun q =>
    ∃ fx < info.width, ∃ fy < info.height, FallsOn x y q.1 q.2 fx fy ∧
      fx / shared.columns = column ∧ fy / shared.rows = row

/-- The sum of a sample of the pixels of an image that fall on a block. -/
def sumOn (info : VideoInfo) (shared : SharedChroma) (image : Raster) (x y : Int)
    (column row : Nat) (channel : Pixel → UInt8) : Nat :=
  ∑ q ∈ placesOn info shared image x y column row, (channel (image.pixel q.1 q.2)).toNat

/-- The number of pixels of the frame in a block. -/
def blockCount (info : VideoInfo) (shared : SharedChroma) (column row : Nat) : Nat :=
  min shared.columns (info.width - column * shared.columns) *
    min shared.rows (info.height - row * shared.rows)

/-- No place is read twice for a block. -/
theorem nodup_visiblePlaces (info : VideoInfo) (shared : SharedChroma) (image : Raster)
    (x y : Int) (column row : Nat) :
    (visiblePlaces info shared image x y column row).Nodup := by
  have hcolumns : ∀ fx ∈ (Span.visible x image.width info.width).toList, x ≤ fx := by
    intro fx hfx
    obtain ⟨-, i, -, hcolumn⟩ := Span.mem_visible.mp hfx
    omega
  have hrows : ∀ fy ∈ (Span.visible y image.height info.height).toList, y ≤ fy := by
    intro fy hfy
    obtain ⟨-, j, -, hrow⟩ := Span.mem_visible.mp hfy
    omega
  refine List.nodup_flatMap.mpr ⟨fun fy _ => ?_, ?_⟩
  · refine List.Nodup.map_on ?_ (Span.nodup_toList _)
    intro fx hfx fx' hfx' heq
    have hle := hcolumns fx (Span.mem_meet.mp hfx).2
    have hle' := hcolumns fx' (Span.mem_meet.mp hfx').2
    simp only [Prod.mk.injEq] at heq
    omega
  · refine (Span.nodup_toList _).imp_of_mem ?_
    intro fy fy' hfy hfy' hne q hq hq'
    have hle := hrows fy (Span.mem_meet.mp hfy).2
    have hle' := hrows fy' (Span.mem_meet.mp hfy').2
    obtain ⟨fx, -, rfl⟩ := List.mem_map.mp hq
    obtain ⟨fx', -, heq⟩ := List.mem_map.mp hq'
    simp only [Prod.mk.injEq] at heq
    omega

theorem toFinset_visiblePlaces (h : shared.Sound) :
    (visiblePlaces info shared image x y column row).toFinset =
      placesOn info shared image x y column row := by
  ext q
  rw [List.mem_toFinset, mem_visiblePlaces h]
  simp only [placesOn, Finset.mem_filter, Finset.mem_product, Finset.mem_range, and_assoc]

theorem sum_coverBlock_eq_sumOn (h : shared.Sound) {channel : Pixel → UInt8}
    (hclear : channel Pixel.transparent = 0) :
    ((coverBlock info shared image x y column row).map fun p => (channel p).toNat).sum =
      sumOn info shared image x y column row channel := by
  rw [sum_coverBlock h (by rw [hclear]; rfl), sumOn, ← toFinset_visiblePlaces h,
    List.sum_toFinset _ (nodup_visiblePlaces info shared image x y column row), List.map_map]
  rfl

theorem length_coverBlock (info : VideoInfo) (shared : SharedChroma) (image : Raster) (x y : Int)
    (column row : Nat) :
    (coverBlock info shared image x y column row).length = blockCount info shared column row := by
  simp [coverBlock, Span.toList, Span.group, blockCount, Nat.mul_comm]

/-- The alphas of the pixels of a block are bytes. -/
theorem alpha_ofList_le (pixels : List Pixel) :
    (PixelSum.ofList pixels).alpha ≤ 255 * pixels.length := by
  rw [PixelSum.ofList_eq]
  have hle : ∀ n ∈ pixels.map fun p => p.alpha.toNat, n ≤ 255 := by
    intro n hn
    obtain ⟨p, -, rfl⟩ := List.mem_map.mp hn
    exact toNat_le_255 p.alpha
  simpa [Nat.mul_comm] using List.sum_le_card_nsmul _ 255 hle

end VideoFrame

namespace PixelSum

variable {s : PixelSum} {count : Nat}

theorem toNat_meanAlpha (hcount : 0 < count) (hle : s.alpha ≤ 255 * count) :
    (s.meanAlpha count).toNat = (s.alpha + count / 2) / count := by
  have hbyte : (s.alpha + count / 2) / count ≤ 255 := by
    rw [← Nat.lt_succ_iff]
    refine Nat.div_lt_of_lt_mul ?_
    omega
  rw [meanAlpha, toNat_ofNat_min, min_eq_right hbyte]

theorem toNat_change_cb (h : s.alpha ≠ 0) (hcount : 0 < count) (hle : s.alpha ≤ 255 * count)
    (sample : UInt8) :
    (s.change count .cb sample).toNat =
      Sample.mean (Sample.cb (Sample.straight s.red s.alpha) (Sample.straight s.green s.alpha)
        (Sample.straight s.blue s.alpha)) sample.toNat ((s.alpha + count / 2) / count) := by
  unfold change
  rw [if_neg h, toNat_mix, yuv, Yuv.toNat_cb, toNat_meanAlpha hcount hle]
  simp only [toNat_straightened]

theorem toNat_change_cr (h : s.alpha ≠ 0) (hcount : 0 < count) (hle : s.alpha ≤ 255 * count)
    (sample : UInt8) :
    (s.change count .cr sample).toNat =
      Sample.mean (Sample.cr (Sample.straight s.red s.alpha) (Sample.straight s.green s.alpha)
        (Sample.straight s.blue s.alpha)) sample.toNat ((s.alpha + count / 2) / count) := by
  unfold change
  rw [if_neg h, toNat_mix, yuv, Yuv.toNat_cr, toNat_meanAlpha hcount hle]
  simp only [toNat_straightened]

end PixelSum

namespace VideoFrame

variable {frame : VideoFrame} {shared : SharedChroma} {image : Raster} {x y : Int}
  {column row : Nat}

theorem ofList_coverBlock_eq_sumOn {info : VideoInfo} (h : shared.Sound) :
    PixelSum.ofList (coverBlock info shared image x y column row) =
      ⟨sumOn info shared image x y column row Pixel.red,
        sumOn info shared image x y column row Pixel.green,
        sumOn info shared image x y column row Pixel.blue,
        sumOn info shared image x y column row Pixel.alpha⟩ := by
  rw [PixelSum.ofList_eq]
  simp only [PixelSum.mk.injEq]
  exact ⟨sum_coverBlock_eq_sumOn h rfl, sum_coverBlock_eq_sumOn h rfl,
    sum_coverBlock_eq_sumOn h rfl, sum_coverBlock_eq_sumOn h rfl⟩

/-- What becomes of shared chroma, by the pixels that fall on the block. -/
theorem blockChange_eq_sumOn {info : VideoInfo} (h : shared.Sound) :
    blockChange info shared image x y column row =
      PixelSum.change ⟨sumOn info shared image x y column row Pixel.red,
        sumOn info shared image x y column row Pixel.green,
        sumOn info shared image x y column row Pixel.blue,
        sumOn info shared image x y column row Pixel.alpha⟩
        (blockCount info shared column row) := by
  rw [blockChange, ofList_coverBlock_eq_sumOn h, length_coverBlock]

theorem sumOn_alpha_le {info : VideoInfo} (h : shared.Sound) :
    sumOn info shared image x y column row Pixel.alpha ≤
      255 * blockCount info shared column row := by
  have hle := alpha_ofList_le (coverBlock info shared image x y column row)
  rwa [ofList_coverBlock_eq_sumOn h, length_coverBlock] at hle

theorem blockCount_pos {info : VideoInfo} (h : shared.Sound)
    (hcolumn : column < VideoInfo.groups shared.columns info.width)
    (hrow : row < VideoInfo.groups shared.rows info.height) :
    0 < blockCount info shared column row := by
  have hcolumns := (VideoInfo.lt_groups_iff h.columns_pos).mp hcolumn
  have hrows := (VideoInfo.lt_groups_iff h.rows_pos).mp hrow
  have hcolumns_pos := h.columns_pos
  have hrows_pos := h.rows_pos
  exact Nat.mul_pos (by omega) (by omega)

/-! ## Chroma -/

/-- The difference of blue and luma of a block. -/
def sharedCb (frame : VideoFrame) (shared : SharedChroma) (column row : Nat) : UInt8 :=
  frame.sharedSample shared column row shared.cbPlane shared.cbOffset

/-- The difference of red and luma of a block. -/
def sharedCr (frame : VideoFrame) (shared : SharedChroma) (column row : Nat) : UInt8 :=
  frame.sharedSample shared column row shared.crPlane shared.crOffset

theorem sharedCb_blend (h : frame.info.format.sharedChroma? = some shared)
    (hcolumn : column < VideoInfo.groups shared.columns frame.info.width)
    (hrow : row < VideoInfo.groups shared.rows frame.info.height) :
    (frame.blend image x y).sharedCb shared column row =
      blockChange frame.info shared image x y column row .cb (frame.sharedCb shared column row) :=
  sharedSample_blend h hcolumn hrow (by simp [SharedChroma.places])

theorem sharedCr_blend (h : frame.info.format.sharedChroma? = some shared)
    (hcolumn : column < VideoInfo.groups shared.columns frame.info.width)
    (hrow : row < VideoInfo.groups shared.rows frame.info.height) :
    (frame.blend image x y).sharedCr shared column row =
      blockChange frame.info shared image x y column row .cr (frame.sharedCr shared column row) :=
  sharedSample_blend h hcolumn hrow (by simp [SharedChroma.places])

/-- **Shared chroma is mixed once for each block.**  A frame comes to be unless the number of bytes
that it needs does not fit.  Then all that is accessed is there, and no byte is changed twice.  The
chroma of a block stays if the alphas of the pixels of the image that fall on it add up to nothing.
Otherwise it is mixed with the chroma of the mean colour of these pixels, to which each of them
contributes by its alpha; the weight is the sum of the alphas divided by the number of pixels of the
block, rounded. -/
theorem blend_mixes_shared_chroma (frame : VideoFrame) (image : Raster) (x y : Int)
    (hwhole : image.isWellFormed = true) (shared : SharedChroma)
    (h : frame.info.format.sharedChroma? = some shared) :
    let drawn := frame.blend image x y
    (∀ info data made, ofData info data = .ok (.ok made) ↔ info.size < longCount ∧
      made.info = info ∧ made.data = data ∧ made.composition = none) ∧
    (∀ info data overflow, ofData info data = .error overflow ↔
      overflow = .frameSize ∧ longCount ≤ info.size) ∧
    BlendAccesses frame image x y ∧
    ∀ column < VideoInfo.groups shared.columns frame.info.width,
    ∀ row < VideoInfo.groups shared.rows frame.info.height,
      let sum := sumOn frame.info shared image x y column row
      let count := blockCount frame.info shared column row
      let red := Sample.straight (sum Pixel.red) (sum Pixel.alpha)
      let green := Sample.straight (sum Pixel.green) (sum Pixel.alpha)
      let blue := Sample.straight (sum Pixel.blue) (sum Pixel.alpha)
      let weight := (sum Pixel.alpha + count / 2) / count
      (sum Pixel.alpha = 0 →
        drawn.sharedCb shared column row = frame.sharedCb shared column row ∧
        drawn.sharedCr shared column row = frame.sharedCr shared column row) ∧
      (sum Pixel.alpha ≠ 0 →
        (drawn.sharedCb shared column row).toNat =
          Sample.mean (Sample.cb red green blue) (frame.sharedCb shared column row).toNat weight ∧
        (drawn.sharedCr shared column row).toNat =
          Sample.mean (Sample.cr red green blue) (frame.sharedCr shared column row).toNat
            weight) := by
  intro drawn
  refine ⟨fun info data made => ofData_eq_ok_iff, fun info data overflow => ofData_eq_error_iff,
    blend_accesses frame x y hwhole, ?_⟩
  intro column hcolumn row hrow sum count red green blue weight
  have hsound := VideoFormat.shared_sound h
  have hcount : 0 < count := blockCount_pos hsound hcolumn hrow
  have hle : sum Pixel.alpha ≤ 255 * count := sumOn_alpha_le hsound
  have hcb : drawn.sharedCb shared column row = PixelSum.change
      ⟨sum Pixel.red, sum Pixel.green, sum Pixel.blue, sum Pixel.alpha⟩ count .cb
        (frame.sharedCb shared column row) := by
    rw [sharedCb_blend h hcolumn hrow, blockChange_eq_sumOn hsound]
  have hcr : drawn.sharedCr shared column row = PixelSum.change
      ⟨sum Pixel.red, sum Pixel.green, sum Pixel.blue, sum Pixel.alpha⟩ count .cr
        (frame.sharedCr shared column row) := by
    rw [sharedCr_blend h hcolumn hrow, blockChange_eq_sumOn hsound]
  constructor
  · intro hnone
    rw [hcb, hcr, PixelSum.change_of_alpha_eq_zero hnone, PixelSum.change_of_alpha_eq_zero hnone]
    exact ⟨rfl, rfl⟩
  · intro hsome
    rw [hcb, hcr]
    exact ⟨PixelSum.toNat_change_cb hsome hcount hle _, PixelSum.toNat_change_cr hsome hcount hle _⟩

/-- A red image of which one pixel falls on the upper left block of four pixels. -/
theorem blend_quarter_red :
    let info : VideoInfo := ⟨.i420, 3, 3, 0, 1, Nat.zero_lt_succ 2, Nat.zero_lt_succ 2⟩
    let frame : VideoFrame := ⟨info, Array.replicate 28 128, none, by decide⟩
    let image : Raster := ⟨1, 2, 0, #[255, 0, 0, 255, 255, 0, 0, 255]⟩
    let shared : SharedChroma := ⟨2, 2, 1, 2, 1, 0, 0⟩
    image.isWellFormed = true ∧ info.format.sharedChroma? = some shared ∧
      ((frame.blend image 1 1).sharedCb shared 0 0).toNat = 118 := by
  intro info frame image shared
  have hwhole : image.isWellFormed = true := by decide
  have hshared : info.format.sharedChroma? = some shared := rfl
  obtain ⟨-, -, -, hblocks⟩ := blend_mixes_shared_chroma frame image 1 1 hwhole shared hshared
  have hmixed := ((hblocks 0 (by decide) 0 (by decide)).2 (by decide)).1
  exact ⟨hwhole, hshared, hmixed.trans (by decide)⟩

/-- The number of bytes of the frame is the first one that does not fit.  Taken with as many bits as
it should fit in, it is zero, so that no bytes at all seem to be enough; the first sample that a
block shares would not be there. -/
theorem endless_block_overflows :
    let info : VideoInfo :=
      ⟨.yuy2, 4294967295, 2147483648, 0, 1, Nat.zero_lt_succ _, Nat.zero_lt_succ _⟩
    let image : Raster := ⟨1, 1, 0, #[255, 255, 255, 255]⟩
    let shared : SharedChroma := ⟨2, 1, 0, 0, 4, 1, 3⟩
    image.isWellFormed = true ∧ info.format.sharedChroma? = some shared ∧
      ofData info #[] = .error .frameSize ∧ info.size % longCount = (#[] : Array UInt8).size ∧
      visiblePlaces info shared image 0 0 0 0 = [(0, 0)] ∧ (image.pixel 0 0).alpha ≠ 0 ∧
      ∃ e ∈ (drawing info image 0 0).blockEdits, (#[] : Array UInt8).size ≤ e.address := by
  intro info image shared
  have hblock :
      ((drawing info image 0 0).blockEdits.any fun e => decide (0 ≤ e.address)) = true := by
    decide +kernel
  obtain ⟨e, he, haddress⟩ := List.any_eq_true.mp hblock
  refine ⟨by decide, by decide, ofData_eq_error_iff.mpr ⟨rfl, by decide +kernel⟩, by decide +kernel,
    by decide +kernel, by decide, e, he, of_decide_eq_true haddress⟩

end VideoFrame

end Captioning
