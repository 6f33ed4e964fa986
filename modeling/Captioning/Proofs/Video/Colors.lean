import Captioning.Video.Color
import Mathlib.Algebra.Order.Ring.Nat

/-!
# Colours in numbers

The samples that filling and drawing put into a frame, as plain formulas.  Luma and chroma and the
mean of two samples never come to the bounds of a byte; only what is premultiplied by too small an
alpha has to be cut off at 255.
-/

namespace Captioning

namespace Sample

/-- Luma of a colour. -/
def luma (red green blue : Nat) : Nat :=
  (66 * red + 129 * green + 25 * blue + 128) / 256 + 16

/-- The difference of blue and luma, in which 128 stands for none. -/
def cb (red green blue : Nat) : Nat :=
  (128 * 256 + 128 + 112 * blue - 38 * red - 74 * green) / 256

/-- The difference of red and luma, in which 128 stands for none. -/
def cr (red green blue : Nat) : Nat :=
  (128 * 256 + 128 + 112 * red - 94 * green - 18 * blue) / 256

/-- A sample premultiplied by `alpha` on top of another one. -/
def layered (top below alpha : Nat) : Nat :=
  min 255 (top + (below * (255 - alpha) + 127) / 255)

/-- The mean of two samples, in which the first weighs `alpha` parts of 255. -/
def mean (top below alpha : Nat) : Nat :=
  (top * alpha + below * (255 - alpha) + 127) / 255

/-- A premultiplied sample, or a sum of some, without its alpha. -/
def straight (sum alpha : Nat) : Nat :=
  min 255 ((sum * 255 + alpha / 2) / alpha)

end Sample

theorem toNat_le_255 (b : UInt8) : b.toNat ≤ 255 :=
  Nat.le_of_lt_succ b.toNat_lt

/-- A number that is a byte is the byte nearest to it. -/
theorem toNat_clampByte {n : Int} (hlow : 0 ≤ n) (hhigh : n ≤ 255) :
    (clampByte n).toNat = n.toNat := by
  rw [clampByte, max_eq_left hlow, min_eq_left hhigh, UInt8.toNat_ofNat']
  omega

theorem toNat_ofNat_min (n : Nat) : (UInt8.ofNat (min n 255)).toNat = min 255 n := by
  rw [UInt8.toNat_ofNat', Nat.min_comm]
  omega

namespace Yuv

variable (red green blue : UInt8)

theorem toNat_y : (ofRgb red green blue).y.toNat =
    Sample.luma red.toNat green.toNat blue.toNat := by
  have hred := toNat_le_255 red
  have hgreen := toNat_le_255 green
  have hblue := toNat_le_255 blue
  simp only [ofRgb, Sample.luma]
  rw [toNat_clampByte (by omega) (by omega)]
  omega

theorem toNat_cb : (ofRgb red green blue).cb.toNat =
    Sample.cb red.toNat green.toNat blue.toNat := by
  have hred := toNat_le_255 red
  have hgreen := toNat_le_255 green
  have hblue := toNat_le_255 blue
  simp only [ofRgb, Sample.cb]
  rw [toNat_clampByte (by omega) (by omega)]
  omega

theorem toNat_cr : (ofRgb red green blue).cr.toNat =
    Sample.cr red.toNat green.toNat blue.toNat := by
  have hred := toNat_le_255 red
  have hgreen := toNat_le_255 green
  have hblue := toNat_le_255 blue
  simp only [ofRgb, Sample.cr]
  rw [toNat_clampByte (by omega) (by omega)]
  omega

end Yuv

theorem toNat_straightened (sum alpha : Nat) :
    (straightened sum alpha).toNat = Sample.straight sum alpha :=
  toNat_ofNat_min _

theorem toNat_laidOver (top below alpha : UInt8) :
    (laidOver top below alpha).toNat = Sample.layered top.toNat below.toNat alpha.toNat := by
  have hbelow : below.toNat * (255 - alpha.toNat) ≤ 255 * 255 :=
    Nat.mul_le_mul (toNat_le_255 below) (Nat.sub_le _ _)
  have hdiv : div255 (below.toNat * (255 - alpha.toNat)) =
      (below.toNat * (255 - alpha.toNat) + 127) / 255 := by
    rw [div255]
    omega
  rw [laidOver, toNat_ofNat_min, hdiv]
  rfl

theorem toNat_mix (top below alpha : UInt8) :
    (mix top below alpha).toNat = Sample.mean top.toNat below.toNat alpha.toNat := by
  have halpha := toNat_le_255 alpha
  -- the two weights add up to 255
  have hsum : top.toNat * alpha.toNat + below.toNat * (255 - alpha.toNat) ≤ 255 * 255 :=
    calc top.toNat * alpha.toNat + below.toNat * (255 - alpha.toNat)
        ≤ 255 * alpha.toNat + 255 * (255 - alpha.toNat) :=
          Nat.add_le_add (Nat.mul_le_mul_right _ (toNat_le_255 top))
            (Nat.mul_le_mul_right _ (toNat_le_255 below))
      _ = 255 * 255 := by rw [← Nat.mul_add, Nat.add_sub_cancel' halpha]
  rw [mix, div255, toNat_ofNat_min, Sample.mean]
  omega

/-! ## Opaque samples -/

@[simp] theorem laidOver_full_alpha (top below : UInt8) : laidOver top below 255 = top := by
  apply UInt8.toNat.inj
  have htop := toNat_le_255 top
  rw [toNat_laidOver, Sample.layered]
  simp
  omega

@[simp] theorem mix_full_alpha (top below : UInt8) : mix top below 255 = top := by
  apply UInt8.toNat.inj
  rw [toNat_mix, Sample.mean]
  simp
  omega

end Captioning
