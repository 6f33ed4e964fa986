/-!
# Colours

Colours are turned into luma and chroma by the matrix of BT.601 with limited range.  One colour is
laid on another one premultiplied, or mixed with it by alpha.
-/

namespace Captioning

/-- The byte nearest to an integer. -/
def clampByte (n : Int) : UInt8 :=
  UInt8.ofNat (min (max n 0) 255).toNat

/-- Luma and chroma. -/
structure Yuv where
  y : UInt8
  cb : UInt8
  cr : UInt8
  deriving DecidableEq

/-- Luma and chroma of a colour.  The weights are in units of 1/256; sums are rounded to the
nearest integer. -/
def Yuv.ofRgb (red green blue : UInt8) : Yuv :=
  let r : Int := red.toNat
  let g : Int := green.toNat
  let b : Int := blue.toNat
  { y := clampByte ((66 * r + 129 * g + 25 * b + 128) / 256 + 16)
    cb := clampByte ((-38 * r - 74 * g + 112 * b + 128) / 256 + 128)
    cr := clampByte ((112 * r - 94 * g - 18 * b + 128) / 256 + 128) }

/-- A 255th part, rounded to the nearest integer, at most 255. -/
def div255 (n : Nat) : Nat :=
  min ((n + 127) / 255) 255

/-- A sample premultiplied by `alpha` on top of another one. -/
def laidOver (top below alpha : UInt8) : UInt8 :=
  UInt8.ofNat (min (top.toNat + div255 (below.toNat * (255 - alpha.toNat))) 255)

/-- The mean of two samples, in which the first has the weight `alpha`. -/
def mix (top below alpha : UInt8) : UInt8 :=
  UInt8.ofNat (div255 (top.toNat * alpha.toNat + below.toNat * (255 - alpha.toNat)))

/-- A sample of a sum of colours whose alphas add up to `alpha`, freed of its alpha. -/
def straightened (sum alpha : Nat) : UInt8 :=
  UInt8.ofNat (min ((sum * 255 + alpha / 2) / alpha) 255)

end Captioning
