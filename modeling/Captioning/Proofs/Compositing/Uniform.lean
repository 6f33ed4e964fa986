import Captioning.Proofs.Compositing.Blending
import Captioning.Proofs.Compositing.SharedSamples

/-!
# Blocks of one colour

The mean of equal pixels is that pixel, with the same rounding.  So where all pixels of a block are
covered by the same colour and alpha, the chroma that they share becomes what each of them would
make of a chroma of its own, and the formats with and without shared chroma show the same.
-/

namespace Captioning

/-- Freeing a sum of equal samples of its alpha gives what each of them gives. -/
theorem straightened_mul {n : Nat} (hn : 0 < n) (sample alpha : Nat) :
    straightened (n * sample) (n * alpha) = straightened sample alpha := by
  have hhalf : n * alpha / 2 / n = alpha / 2 := by
    rw [Nat.div_div_eq_div_mul, Nat.mul_comm 2 n, Nat.mul_div_mul_left _ _ hn]
  have hquotient : (n * sample * 255 + n * alpha / 2) / (n * alpha) =
      (sample * 255 + alpha / 2) / alpha :=
    calc (n * sample * 255 + n * alpha / 2) / (n * alpha)
        = (n * (sample * 255) + n * alpha / 2) / n / alpha := by
          rw [Nat.mul_assoc, Nat.div_div_eq_div_mul]
      _ = (sample * 255 + alpha / 2) / alpha := by rw [Nat.mul_add_div hn, hhalf]
  rw [straightened, straightened, hquotient]

namespace PixelSum

variable {n : Nat}

theorem ofList_replicate (n : Nat) (p : Pixel) : ofList (List.replicate n p) =
    ⟨n * p.red.toNat, n * p.green.toNat, n * p.blue.toNat, n * p.alpha.toNat⟩ := by
  simp [ofList_eq]

theorem meanAlpha_ofList_replicate (hn : 0 < n) (p : Pixel) :
    (ofList (List.replicate n p)).meanAlpha n = p.alpha := by
  have halpha := toNat_le_255 p.alpha
  apply UInt8.toNat.inj
  rw [meanAlpha, toNat_ofNat_min, ofList_replicate]
  simp only
  rw [Nat.mul_add_div hn, Nat.div_eq_of_lt (Nat.div_lt_self hn Nat.one_lt_two)]
  omega

theorem yuv_ofList_replicate (hn : 0 < n) (p : Pixel) :
    (ofList (List.replicate n p)).yuv = p.yuv := by
  simp only [yuv, Pixel.yuv, ofList_replicate, straightened_mul hn]

theorem alpha_ofList_replicate_eq_zero_iff (hn : 0 < n) (p : Pixel) :
    (ofList (List.replicate n p)).alpha = 0 ↔ p.alpha = 0 := by
  rw [ofList_replicate]
  simp only [Nat.mul_eq_zero, Nat.ne_of_gt hn, false_or, ← UInt8.toNat_inj, UInt8.toNat_zero]

/-- Equal pixels change chroma like one of them. -/
theorem change_replicate (hn : 0 < n) (p : Pixel) {component : Component}
    (hchroma : component = .cb ∨ component = .cr) (sample : UInt8) :
    (ofList (List.replicate n p)).change n component sample = p.change component sample := by
  unfold change Pixel.change
  by_cases hclear : p.alpha = 0
  · rw [if_pos ((alpha_ofList_replicate_eq_zero_iff hn p).mpr hclear), if_pos hclear]
  · rw [if_neg (mt (alpha_ofList_replicate_eq_zero_iff hn p).mp hclear), if_neg hclear]
    rcases hchroma with rfl | rfl <;>
      simp only [meanAlpha_ofList_replicate hn, yuv_ofList_replicate hn]

end PixelSum

/-- A pixel of the image that is equal to `p` falls on the pixel `(fx, fy)` of the frame. -/
def Raster.ShowsAt (image : Raster) (x y : Int) (fx fy : Nat) (p : Pixel) : Prop :=
  ∃ i < image.width, ∃ j < image.height, FallsOn x y i j fx fy ∧ image.pixel i j = p

instance (image : Raster) (x y : Int) (fx fy : Nat) (p : Pixel) :
    Decidable (image.ShowsAt x y fx fy p) :=
  inferInstanceAs (Decidable (∃ i < image.width, ∃ j < image.height,
    FallsOn x y i j fx fy ∧ image.pixel i j = p))

theorem Raster.ShowsAt.cover_eq {image : Raster} {x y : Int} {fx fy : Nat} {p : Pixel}
    (h : image.ShowsAt x y fx fy p) : image.cover x y fx fy = p := by
  obtain ⟨i, hi, j, hj, hfalls, hpixel⟩ := h
  rw [cover_of_fallsOn hi hj hfalls, hpixel]

namespace VideoFrame

variable {info : VideoInfo} {shared : SharedChroma} {image : Raster} {x y : Int}
  {column row : Nat}

/-- All pixels of a block are covered by pixels of the image that are equal to `p`. -/
def CoversBlock (info : VideoInfo) (shared : SharedChroma) (image : Raster) (x y : Int)
    (column row : Nat) (p : Pixel) : Prop :=
  ∀ fx < info.width, ∀ fy < info.height, fx / shared.columns = column → fy / shared.rows = row →
    image.ShowsAt x y fx fy p

instance (info : VideoInfo) (shared : SharedChroma) (image : Raster) (x y : Int)
    (column row : Nat) (p : Pixel) :
    Decidable (CoversBlock info shared image x y column row p) :=
  inferInstanceAs (Decidable (∀ fx < info.width, ∀ fy < info.height,
    fx / shared.columns = column → fy / shared.rows = row → image.ShowsAt x y fx fy p))

theorem coverBlock_of_covers {p : Pixel} (h : shared.Sound)
    (hcovers : CoversBlock info shared image x y column row p) :
    coverBlock info shared image x y column row =
      List.replicate (coverBlock info shared image x y column row).length p := by
  refine List.eq_replicate_of_mem fun p' hp' => ?_
  obtain ⟨fx, fy, hfx, hfy, rfl⟩ := (mem_coverBlock h).mp hp'
  exact (hcovers fx hfx.1 fy hfy.1 hfx.2 hfy.2).cover_eq

theorem blockChange_of_covers {p : Pixel} (h : shared.Sound)
    (hcolumn : column < VideoInfo.groups shared.columns info.width)
    (hrow : row < VideoInfo.groups shared.rows info.height)
    (hcovers : CoversBlock info shared image x y column row p) {component : Component}
    (hchroma : component = .cb ∨ component = .cr) (sample : UInt8) :
    blockChange info shared image x y column row component sample = p.change component sample := by
  have hcount : 0 < (coverBlock info shared image x y column row).length := by
    rw [length_coverBlock]
    exact blockCount_pos h hcolumn hrow
  rw [blockChange, coverBlock_of_covers h hcovers, List.length_replicate]
  exact PixelSum.change_replicate hcount p hchroma sample

/-! ## Frames of different formats -/

variable {frame other : VideoFrame}

/-- A covered block shows the chroma of each of its pixels. -/
theorem chroma_of_covers {p : Pixel} (h : frame.info.format.sharedChroma? = some shared)
    (hcolumn : column < VideoInfo.groups shared.columns frame.info.width)
    (hrow : row < VideoInfo.groups shared.rows frame.info.height)
    (hcovers : CoversBlock frame.info shared image x y column row p) :
    (frame.blend image x y).sharedCb shared column row =
        p.change .cb (frame.sharedCb shared column row) ∧
      (frame.blend image x y).sharedCr shared column row =
        p.change .cr (frame.sharedCr shared column row) := by
  have hsound := VideoFormat.shared_sound h
  rw [sharedCb_blend h hcolumn hrow, sharedCr_blend h hcolumn hrow]
  exact ⟨blockChange_of_covers hsound hcolumn hrow hcovers (.inl rfl) _,
    blockChange_of_covers hsound hcolumn hrow hcovers (.inr rfl) _⟩

/-- **Shared chroma is like chroma of each pixel.**  Where all pixels of a block are covered by
equal pixels of the image, drawing makes of the shared chroma what it makes of the chroma of each
of these pixels in a frame that does not share it, if it was equal before.  Luma is the same in
all formats, whatever the image is. -/
theorem blend_agrees_across_formats (image : Raster) (x y : Int) (frame other : VideoFrame) :
    (∀ shared, frame.info.format.sharedChroma? = some shared → other.info.format = .ayuv →
      ∀ column < VideoInfo.groups shared.columns frame.info.width,
      ∀ row < VideoInfo.groups shared.rows frame.info.height,
      ∀ p, CoversBlock frame.info shared image x y column row p →
      ∀ fx < frame.info.width, ∀ fy < frame.info.height,
        fx / shared.columns = column → fy / shared.rows = row →
        fx < other.info.width → fy < other.info.height →
        (frame.sharedCb shared column row = other.sample fx fy 2 →
          (frame.blend image x y).sharedCb shared column row =
            (other.blend image x y).sample fx fy 2) ∧
        (frame.sharedCr shared column row = other.sample fx fy 3 →
          (frame.blend image x y).sharedCr shared column row =
            (other.blend image x y).sample fx fy 3)) ∧
    ∀ offset offset', (.luma, offset) ∈ frame.info.format.components →
      (.luma, offset') ∈ other.info.format.components →
      ∀ fx < frame.info.width, ∀ fy < frame.info.height,
        fx < other.info.width → fy < other.info.height →
        frame.sample fx fy offset = other.sample fx fy offset' →
        (frame.blend image x y).sample fx fy offset =
          (other.blend image x y).sample fx fy offset' := by
  constructor
  · intro shared h hayuv column hcolumn row hrow p hcovers fx hfx fy hfy hinColumn hinRow hfx' hfy'
    obtain ⟨hcb, hcr⟩ := chroma_of_covers h hcolumn hrow hcovers
    have hcover := (hcovers fx hfx fy hfy hinColumn hinRow).cover_eq
    constructor
    · intro hsame
      have hc : (.cb, 2) ∈ other.info.format.components := by rw [hayuv]; decide
      rw [hcb, hsame, sample_blend hfx' hfy' hc, hcover]
    · intro hsame
      have hc : (.cr, 3) ∈ other.info.format.components := by rw [hayuv]; decide
      rw [hcr, hsame, sample_blend hfx' hfy' hc, hcover]
  · intro offset offset' hc hc' fx hfx fy hfy hfx' hfy' hsame
    rw [sample_blend hfx hfy hc, sample_blend hfx' hfy' hc', hsame]

/-- A block of four pixels under a dark yellow of odd alpha, beside pixels with their own chroma. -/
theorem blend_agrees_on_yellow :
    let info : VideoInfo := ⟨.i420, 3, 3, 0, 1, Nat.zero_lt_succ 2, Nat.zero_lt_succ 2⟩
    let frame : VideoFrame := ⟨info, Array.replicate 28 200, none, by decide⟩
    let info' : VideoInfo := ⟨.ayuv, 2, 2, 0, 1, Nat.zero_lt_two, Nat.zero_lt_two⟩
    let other : VideoFrame := ⟨info', Array.replicate 16 200, none, by decide⟩
    let image : Raster := ⟨2, 2, 0, #[7, 5, 0, 9, 7, 5, 0, 9, 7, 5, 0, 9, 7, 5, 0, 9]⟩
    let shared : SharedChroma := ⟨2, 2, 1, 2, 1, 0, 0⟩
    CoversBlock info shared image 0 0 0 0 ⟨7, 5, 0, 9⟩ ∧
      (frame.blend image 0 0).sharedCb shared 0 0 = (other.blend image 0 0).sample 1 1 2 := by
  intro info frame info' other image shared
  have hcovers : CoversBlock info shared image 0 0 0 0 ⟨7, 5, 0, 9⟩ := by decide
  obtain ⟨hchroma, -⟩ := blend_agrees_across_formats image 0 0 frame other
  exact ⟨hcovers, (hchroma shared rfl rfl 0 (by decide) 0 (by decide) _ hcovers 1 (by decide) 1
    (by decide) (by decide) (by decide) (by decide) (by decide)).1 (by decide)⟩

end VideoFrame

end Captioning
