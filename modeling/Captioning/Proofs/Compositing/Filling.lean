import Captioning.Proofs.Compositing.Uniform

/-!
# An opaque image fills the frame

A frame of one colour is filled by the walks that draw images, over all stored pixels and all
blocks.  An opaque image leaves nothing of the samples below it, so where it covers the frame, the
frame shows what a frame of its colour shows.
-/

namespace Captioning

namespace Span

theorem mem_toList_from_zero {n count : Nat} : n ∈ (⟨0, count⟩ : Span).toList ↔ n < count := by
  simp [mem_toList]

end Span

namespace VideoFrame

variable {info : VideoInfo} {shared : SharedChroma} {red green blue : UInt8}
  {fx fy column row : Nat} {component : Component} {plane offset : Nat}

/-! ## Filled frames -/

/-- The frame without any sample set. -/
def unset (info : VideoInfo) : VideoFrame :=
  ⟨info, Array.replicate info.size 0, none, by simp⟩

/-- The walks that fill a frame with a colour. -/
def filling (info : VideoInfo) (red green blue : UInt8) : Redrawing info where
  own := ⟨⟨0, info.storedColumns⟩, ⟨0, info.height⟩,
    fun _ _ component _ => sampleOf red green blue component⟩
  blocks shared := ⟨⟨0, VideoInfo.groups shared.columns info.width⟩,
    ⟨0, VideoInfo.groups shared.rows info.height⟩,
    fun _ _ component _ => sampleOf red green blue component⟩
  own_within _ _ hvisit :=
    ⟨Span.mem_toList_from_zero.mp hvisit.1, Span.mem_toList_from_zero.mp hvisit.2⟩
  blocks_within _ _ _ _ hvisit :=
    ⟨Span.mem_toList_from_zero.mp hvisit.1, Span.mem_toList_from_zero.mp hvisit.2⟩

theorem filledData_eq (info : VideoInfo) (red green blue : UInt8) :
    filledData info red green blue =
      Edit.applyAll (filling info red green blue).edits (Array.replicate info.size 0) := by
  rw [Redrawing.edits, Edit.applyAll_append]
  unfold filledData
  dsimp only
  rw [VideoInfo.mapPixels_eq]
  split
  next shared h =>
    rw [Redrawing.blockEdits_of_some _ h]
    exact VideoInfo.mapChroma_eq info shared _ _ _ _
  next h =>
    rw [Redrawing.blockEdits_of_none _ h]
    rfl

theorem filled_eq_redrawn (info : VideoInfo) (red green blue : UInt8) :
    filled info red green blue = (unset info).redrawn (filling info red green blue) := by
  simp only [filled, redrawn, unset, filledData_eq]

theorem sample_filled (hfx : fx < info.storedColumns) (hfy : fy < info.height)
    (hc : (component, offset) ∈ info.format.components) :
    (filled info red green blue).sample fx fy offset = sampleOf red green blue component := by
  have hvisit : (filling info red green blue).own.Visits fx fy :=
    ⟨Span.mem_toList_from_zero.mpr hfx, Span.mem_toList_from_zero.mpr hfy⟩
  have hredrawn : ((unset info).redrawn (filling info red green blue)).sample fx fy offset =
      if (filling info red green blue).own.Visits fx fy then sampleOf red green blue component
      else (unset info).sample fx fy offset :=
    sample_redrawn _ hfx hfy hc
  rw [filled_eq_redrawn, hredrawn, if_pos hvisit]

theorem sharedSample_filled (h : info.format.sharedChroma? = some shared)
    (hcolumn : column < VideoInfo.groups shared.columns info.width)
    (hrow : row < VideoInfo.groups shared.rows info.height)
    (hplace : (component, plane, offset) ∈ shared.places) :
    (filled info red green blue).sharedSample shared column row plane offset =
      sampleOf red green blue component := by
  have hvisit : ((filling info red green blue).blocks shared).Visits column row :=
    ⟨Span.mem_toList_from_zero.mpr hcolumn, Span.mem_toList_from_zero.mpr hrow⟩
  have hredrawn : ((unset info).redrawn (filling info red green blue)).sharedSample shared
      column row plane offset =
      if ((filling info red green blue).blocks shared).Visits column row then
        sampleOf red green blue component
      else (unset info).sharedSample shared column row plane offset :=
    sharedSample_redrawn _ h hcolumn hrow hplace
  rw [filled_eq_redrawn, hredrawn, if_pos hvisit]

end VideoFrame

/-! ## Opaque pixels -/

theorem straightened_full_alpha (c : UInt8) : straightened c.toNat 255 = c := by
  apply UInt8.toNat.inj
  have hc := toNat_le_255 c
  rw [toNat_straightened, Sample.straight]
  omega

theorem Pixel.yuv_full_alpha (red green blue : UInt8) :
    Pixel.yuv ⟨red, green, blue, 255⟩ = Yuv.ofRgb red green blue := by
  have halpha : (255 : UInt8).toNat = 255 := rfl
  simp only [yuv, halpha, straightened_full_alpha]

/-- An opaque pixel leaves nothing of a sample. -/
theorem Pixel.change_full_alpha (red green blue : UInt8) {component : Component}
    (h : component ≠ .filler) (sample : UInt8) :
    Pixel.change ⟨red, green, blue, 255⟩ component sample =
      VideoFrame.sampleOf red green blue component := by
  have halpha : (255 : UInt8) ≠ 0 := by decide
  unfold Pixel.change
  rw [if_neg halpha]
  cases component with
  | filler => exact absurd rfl h
  | red => exact laidOver_full_alpha _ _
  | green => exact laidOver_full_alpha _ _
  | blue => exact laidOver_full_alpha _ _
  | alpha => exact laidOver_full_alpha _ _
  | luma => simp only [yuv_full_alpha, mix_full_alpha, VideoFrame.sampleOf]
  | cb => simp only [yuv_full_alpha, mix_full_alpha, VideoFrame.sampleOf]
  | cr => simp only [yuv_full_alpha, mix_full_alpha, VideoFrame.sampleOf]

namespace VideoFrame

/-- **An opaque image fills the frame.**  If all pixels of an image have the same opaque colour and
the image covers the frame, then all samples of the frame are those of a frame filled with this
colour; the fillers of pixels stay. -/
theorem opaque_blend_fills (frame : VideoFrame) (image : Raster) (x y : Int)
    (red green blue : UInt8)
    (hpixels : ∀ i < image.width, ∀ j < image.height, image.pixel i j = ⟨red, green, blue, 255⟩)
    (hleft : x ≤ 0) (htop : y ≤ 0) (hright : (frame.info.width : Int) ≤ x + image.width)
    (hbottom : (frame.info.height : Int) ≤ y + image.height) :
    let drawn := frame.blend image x y
    let filled := filled frame.info red green blue
    (∀ fx < frame.info.width, ∀ fy < frame.info.height, ∀ component offset,
      (component, offset) ∈ frame.info.format.components → component ≠ .filler →
        drawn.sample fx fy offset = filled.sample fx fy offset) ∧
    ∀ shared, frame.info.format.sharedChroma? = some shared →
      ∀ column < VideoInfo.groups shared.columns frame.info.width,
      ∀ row < VideoInfo.groups shared.rows frame.info.height,
        drawn.sharedCb shared column row = filled.sharedCb shared column row ∧
        drawn.sharedCr shared column row = filled.sharedCr shared column row := by
  intro drawn filled
  have hcovers : ∀ fx < frame.info.width, ∀ fy < frame.info.height,
      image.ShowsAt x y fx fy ⟨red, green, blue, 255⟩ := by
    intro fx hfx fy hfy
    have hi : ((fx : Int) - x).toNat < image.width := by omega
    have hj : ((fy : Int) - y).toNat < image.height := by omega
    exact ⟨_, hi, _, hj, ⟨by omega, by omega⟩, hpixels _ hi _ hj⟩
  constructor
  · intro fx hfx fy hfy component offset hc hcolour
    rw [sample_blend hfx hfy hc, (hcovers fx hfx fy hfy).cover_eq,
      Pixel.change_full_alpha red green blue hcolour,
      sample_filled (hfx.trans_le frame.info.width_le_storedColumns) hfy hc]
  · intro shared h column hcolumn row hrow
    have hblock : CoversBlock frame.info shared image x y column row ⟨red, green, blue, 255⟩ :=
      fun fx hfx fy hfy _ _ => hcovers fx hfx fy hfy
    obtain ⟨hcb, hcr⟩ := chroma_of_covers h hcolumn hrow hblock
    rw [hcb, hcr, Pixel.change_full_alpha red green blue (by decide),
      Pixel.change_full_alpha red green blue (by decide)]
    exact ⟨(sharedSample_filled h hcolumn hrow (by simp [SharedChroma.places])).symm,
      (sharedSample_filled h hcolumn hrow (by simp [SharedChroma.places])).symm⟩

/-- Three pixels of which the last one is alone in its block, under an opaque orange. -/
theorem orange_fills :
    let info : VideoInfo := ⟨.yuy2, 3, 1, 0, 1, Nat.zero_lt_succ 2, Nat.zero_lt_one⟩
    let frame : VideoFrame := ⟨info, #[1, 2, 3, 4, 5, 6, 7, 8], none, by decide⟩
    let image : Raster :=
      ⟨4, 1, 0, #[200, 90, 0, 255, 200, 90, 0, 255, 200, 90, 0, 255, 200, 90, 0, 255]⟩
    let shared : SharedChroma := ⟨2, 1, 0, 0, 4, 1, 3⟩
    (∀ i < image.width, ∀ j < image.height, image.pixel i j = ⟨200, 90, 0, 255⟩) ∧
      (frame.blend image (-1) 0).sharedCb shared 1 0 =
        (filled info 200 90 0).sharedCb shared 1 0 := by
  intro info frame image shared
  have hpixels : ∀ i < image.width, ∀ j < image.height,
      image.pixel i j = ⟨200, 90, 0, 255⟩ := by
    decide
  obtain ⟨-, hchroma⟩ := opaque_blend_fills frame image (-1) 0 200 90 0 hpixels (by decide)
    (by decide) (by decide) (by decide)
  exact ⟨hpixels, (hchroma shared rfl 1 (by decide) 0 (by decide)).1⟩

end VideoFrame

end Captioning
