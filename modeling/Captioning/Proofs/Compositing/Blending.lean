import Captioning.Proofs.Compositing.Accesses
import Captioning.Proofs.Video.Colors

/-!
# Drawing sample by sample

Drawing an image changes the samples of those pixels of the frame on which a pixel of the image
falls that is not transparent, each by a formula of its own sample and that pixel.  Besides the
chroma that blocks share, nothing else in the frame changes.
-/

namespace Captioning

/-- What a pixel of an image makes of a sample below it, in numbers. -/
def Pixel.drawnOn (p : Pixel) (component : Component) (below : Nat) : Nat :=
  let alpha := p.alpha.toNat
  let red := Sample.straight p.red.toNat alpha
  let green := Sample.straight p.green.toNat alpha
  let blue := Sample.straight p.blue.toNat alpha
  match component with
  | .red => Sample.layered p.red.toNat below alpha
  | .green => Sample.layered p.green.toNat below alpha
  | .blue => Sample.layered p.blue.toNat below alpha
  | .alpha => Sample.layered alpha below alpha
  | .luma => Sample.mean (Sample.luma red green blue) below alpha
  | .cb => Sample.mean (Sample.cb red green blue) below alpha
  | .cr => Sample.mean (Sample.cr red green blue) below alpha
  | .filler => below

theorem Pixel.toNat_change {p : Pixel} (h : p.alpha ≠ 0) (component : Component)
    (sample : UInt8) :
    (p.change component sample).toNat = p.drawnOn component sample.toNat := by
  unfold Pixel.change
  rw [if_neg h]
  cases component with
  | red => exact toNat_laidOver _ _ _
  | green => exact toNat_laidOver _ _ _
  | blue => exact toNat_laidOver _ _ _
  | alpha => exact toNat_laidOver _ _ _
  | luma => simp only [toNat_mix, Pixel.yuv, Yuv.toNat_y, toNat_straightened, drawnOn]
  | cb => simp only [toNat_mix, Pixel.yuv, Yuv.toNat_cb, toNat_straightened, drawnOn]
  | cr => simp only [toNat_mix, Pixel.yuv, Yuv.toNat_cr, toNat_straightened, drawnOn]
  | filler => rfl

/-- The byte that fills up a pixel stays. -/
theorem Pixel.change_filler (p : Pixel) (sample : UInt8) : p.change .filler sample = sample := by
  unfold Pixel.change
  split <;> rfl

namespace VideoFrame

variable {frame : VideoFrame} {image : Raster} {x y : Int} {fx fy : Nat} {component : Component}
  {offset : Nat}

theorem sample_blend_of_fallsOn {i j : Nat} (hi : i < image.width) (hj : j < image.height)
    (hfx : fx < frame.info.width) (hfy : fy < frame.info.height) (hfalls : FallsOn x y i j fx fy)
    (hshows : (image.pixel i j).alpha ≠ 0)
    (hc : (component, offset) ∈ frame.info.format.components) :
    ((frame.blend image x y).sample fx fy offset).toNat =
      (image.pixel i j).drawnOn component (frame.sample fx fy offset).toNat := by
  rw [sample_blend hfx hfy hc, Raster.cover_of_fallsOn hi hj hfalls, Pixel.toNat_change hshows]

theorem sample_blend_of_clear
    (hclear : ∀ i < image.width, ∀ j < image.height, FallsOn x y i j fx fy →
      (image.pixel i j).alpha = 0)
    (hfx : fx < frame.info.width) (hfy : fy < frame.info.height)
    (hc : (component, offset) ∈ frame.info.format.components) :
    (frame.blend image x y).sample fx fy offset = frame.sample fx fy offset := by
  rw [sample_blend hfx hfy hc]
  rcases image.cover_cases x y fx fy with ⟨i, hi, j, hj, hfalls⟩ | hcover
  · rw [Raster.cover_of_fallsOn hi hj hfalls,
      Pixel.change_of_alpha_eq_zero (hclear i hi j hj hfalls)]
  · rw [hcover, Pixel.change_of_alpha_eq_zero rfl]

/-- Bytes that hold neither a sample of a pixel nor one of a block stay, among them the fillers
of pixels, the samples beside the last column and what comes after the rows and the frame. -/
theorem byte_blend {i : Nat}
    (hpixel : ∀ fx < frame.info.width, ∀ fy < frame.info.height, ∀ component offset,
      (component, offset) ∈ frame.info.format.components → component ≠ .filler →
        frame.info.address fx fy offset ≠ i)
    (hblock : ∀ shared, frame.info.format.sharedChroma? = some shared →
      ∀ column < VideoInfo.groups shared.columns frame.info.width,
      ∀ row < VideoInfo.groups shared.rows frame.info.height, ∀ place ∈ shared.places,
        frame.info.chromaAddress place.2.1 shared.step column row place.2.2 ≠ i) :
    (frame.blend image x y).byte i = frame.byte i := by
  by_cases hstored : ∃ fx < frame.info.storedColumns, ∃ fy < frame.info.height,
      ∃ c ∈ frame.info.format.components, frame.info.address fx fy c.2 = i
  · -- a filler, or a sample beside the last column
    obtain ⟨fx, hfx, fy, hfy, ⟨component, offset⟩, hc, rfl⟩ := hstored
    change (frame.blend image x y).sample fx fy offset = frame.sample fx fy offset
    rw [blend_eq_redrawn, sample_redrawn _ hfx hfy hc]
    split
    next hvisit =>
      have hwidth := (visits_own_iff.mp hvisit).1.1
      obtain rfl : component = .filler := by
        by_contra hne
        exact hpixel fx hwidth fy hfy component offset hc hne rfl
      exact Pixel.change_filler _ _
    next => rfl
  · rw [blend_eq_redrawn]
    refine byte_redrawn _ ?_ hblock
    intro fx hfx fy hfy c hc heq
    exact hstored ⟨fx, hfx, fy, hfy, c, hc, heq⟩

/-- **Drawing, sample by sample.**  A frame comes to be unless the number of bytes that it needs
does not fit.  Then all that is accessed is there, and no byte is changed twice.  A sample of a
pixel of the frame becomes what the pixel of the image that falls on it makes of it, and stays if
there is none or if it is transparent.  Besides the samples that blocks share, every other byte
stays. -/
theorem blend_draws_each_sample (frame : VideoFrame) (image : Raster) (x y : Int)
    (hwhole : image.isWellFormed = true) :
    let info := frame.info
    let drawn := frame.blend image x y
    (∀ info data made, ofData info data = .ok (.ok made) ↔ info.size < longCount ∧
      made.info = info ∧ made.data = data ∧ made.composition = none) ∧
    (∀ info data overflow, ofData info data = .error overflow ↔
      overflow = .frameSize ∧ longCount ≤ info.size) ∧
    BlendAccesses frame image x y ∧
    (∀ fx < info.width, ∀ fy < info.height, ∀ component offset,
      (component, offset) ∈ info.format.components →
        (∀ i < image.width, ∀ j < image.height, FallsOn x y i j fx fy →
          (image.pixel i j).alpha ≠ 0 → (drawn.sample fx fy offset).toNat =
            (image.pixel i j).drawnOn component (frame.sample fx fy offset).toNat) ∧
        ((∀ i < image.width, ∀ j < image.height, FallsOn x y i j fx fy →
          (image.pixel i j).alpha = 0) →
            drawn.sample fx fy offset = frame.sample fx fy offset)) ∧
    drawn.data.size = frame.data.size ∧
    ∀ i, (∀ fx < info.width, ∀ fy < info.height, ∀ component offset,
        (component, offset) ∈ info.format.components → component ≠ .filler →
          info.address fx fy offset ≠ i) →
      (∀ shared, info.format.sharedChroma? = some shared →
        ∀ column < VideoInfo.groups shared.columns info.width,
        ∀ row < VideoInfo.groups shared.rows info.height, ∀ place ∈ shared.places,
          info.chromaAddress place.2.1 shared.step column row place.2.2 ≠ i) →
      drawn.byte i = frame.byte i := by
  intro info drawn
  refine ⟨fun info data made => ofData_eq_ok_iff, fun info data overflow => ofData_eq_error_iff,
    blend_accesses frame x y hwhole, ?_,
    size_blendData _ _ _ _ _, fun i hpixel hblock => byte_blend hpixel hblock⟩
  intro fx hfx fy hfy component offset hc
  constructor
  · intro i hi j hj hfalls hshows
    exact sample_blend_of_fallsOn hi hj hfx hfy hfalls hshows hc
  · intro hclear
    exact sample_blend_of_clear hclear hfx hfy hc

/-- A red of half alpha, one column to the left of the frame: only its right pixel is visible. -/
theorem blend_half_red :
    let info : VideoInfo := ⟨.ayuv, 2, 1, 0, 1, Nat.zero_lt_two, Nat.zero_lt_one⟩
    let frame : VideoFrame := ⟨info, #[255, 16, 128, 128, 255, 16, 128, 128], none, by decide⟩
    let image : Raster := ⟨2, 1, 0, #[0, 0, 0, 0, 64, 0, 0, 128]⟩
    image.isWellFormed = true ∧ ((frame.blend image (-1) 0).sample 0 0 1).toNat = 33 ∧
      (frame.blend image (-1) 0).sample 1 0 1 = 16 := by
  intro info frame image
  have hwhole : image.isWellFormed = true := by decide
  obtain ⟨-, -, -, hsamples, -⟩ := blend_draws_each_sample frame image (-1) 0 hwhole
  refine ⟨hwhole, ?_, ?_⟩
  · exact ((hsamples 0 (by decide) 0 (by decide) .luma 1 (by decide)).1 1 (by decide) 0 (by decide)
      (by decide) (by decide)).trans (by decide)
  · exact ((hsamples 1 (by decide) 0 (by decide) .luma 1 (by decide)).2 (by decide)).trans
      (by decide)

/-- The number of bytes of the frame is the first one that does not fit.  Taken with as many bits as
it should fit in, it is zero, so that no bytes at all seem to be enough; the first byte of the frame
would not be there. -/
theorem endless_frame_overflows :
    let info : VideoInfo :=
      ⟨.rgba, 2147483648, 2147483648, 0, 1, Nat.zero_lt_succ _, Nat.zero_lt_succ _⟩
    let image : Raster := ⟨1, 1, 0, #[255, 255, 255, 255]⟩
    image.isWellFormed = true ∧ ofData info #[] = .error .frameSize ∧
      info.size % longCount = (#[] : Array UInt8).size ∧
      ∃ e ∈ (drawing info image 0 0).edits, e.address = (#[] : Array UInt8).size := by
  intro info image
  refine ⟨by decide, ofData_eq_error_iff.mpr ⟨rfl, by decide +kernel⟩, by decide +kernel, ?_⟩
  have hfirst : ((drawing info image 0 0).edits.any fun e => e.address == 0) = true := by
    decide +kernel
  obtain ⟨e, he, haddress⟩ := List.any_eq_true.mp hfirst
  exact ⟨e, he, beq_iff_eq.mp haddress⟩

end VideoFrame

end Captioning
