/-!
# Pixel formats

The fifteen raw formats that captions can be drawn on.  A frame consists of samples, each of
them one byte.  Some belong to a single pixel and stand together in the first plane; in three
formats a block of pixels shares two samples of chroma.
-/

namespace Captioning

/-- A raw pixel format. -/
inductive VideoFormat where
  /-- Luma only. -/
  | gray8
  /-- Planes of luma and of chroma for two by two pixels. -/
  | i420
  /-- Alpha, luma and chroma of each pixel. -/
  | ayuv
  /-- Pairs of pixels that share their chroma: `Y U Y V`. -/
  | yuy2
  /-- Pairs of pixels that share their chroma: `U Y V Y`. -/
  | uyvy
  | xrgb
  | xbgr
  | rgbx
  | bgrx
  | argb
  | abgr
  | rgba
  | bgra
  | rgb
  | bgr
  deriving DecidableEq

/-- What a sample measures. -/
inductive Component where
  | red
  | green
  | blue
  | alpha
  | luma
  /-- The difference of blue and luma. -/
  | cb
  /-- The difference of red and luma. -/
  | cr
  /-- Nothing: the fourth byte of a pixel with three components. -/
  | filler
  deriving DecidableEq

/-- Where the chroma samples stand that are shared by blocks of pixels. -/
structure SharedChroma where
  /-- The width of a block. -/
  columns : Nat
  /-- The height of a block. -/
  rows : Nat
  cbPlane : Nat
  crPlane : Nat
  /-- The number of bytes from one block to the next. -/
  step : Nat
  cbOffset : Nat
  crOffset : Nat
  deriving DecidableEq

namespace VideoFormat

/-- The formats in declaration order, each with the name used in files. -/
def names : List (String × VideoFormat) :=
  [("GRAY8", gray8), ("I420", i420), ("AYUV", ayuv), ("YUY2", yuy2), ("UYVY", uyvy),
    ("xRGB", xrgb), ("xBGR", xbgr), ("RGBx", rgbx), ("BGRx", bgrx), ("ARGB", argb),
    ("ABGR", abgr), ("RGBA", rgba), ("BGRA", bgra), ("RGB", rgb), ("BGR", bgr)]

/-- The name used in files. -/
def name : VideoFormat → String
  | gray8 => "GRAY8"
  | i420 => "I420"
  | ayuv => "AYUV"
  | yuy2 => "YUY2"
  | uyvy => "UYVY"
  | xrgb => "xRGB"
  | xbgr => "xBGR"
  | rgbx => "RGBx"
  | bgrx => "BGRx"
  | argb => "ARGB"
  | abgr => "ABGR"
  | rgba => "RGBA"
  | bgra => "BGRA"
  | rgb => "RGB"
  | bgr => "BGR"

/-- The name used in messages. -/
def title : VideoFormat → String
  | gray8 => "Gray8"
  | i420 => "I420"
  | ayuv => "Ayuv"
  | yuy2 => "Yuy2"
  | uyvy => "Uyvy"
  | xrgb => "Xrgb"
  | xbgr => "Xbgr"
  | rgbx => "Rgbx"
  | bgrx => "Bgrx"
  | argb => "Argb"
  | abgr => "Abgr"
  | rgba => "Rgba"
  | bgra => "Bgra"
  | rgb => "Rgb"
  | bgr => "Bgr"

/-- Whether the format stores luma and chroma instead of red, green and blue. -/
def isYuv : VideoFormat → Bool
  | gray8 | i420 | ayuv | yuy2 | uyvy => true
  | _ => false

/-- The number of bytes from one pixel to the next in the first plane. -/
def pixelSize : VideoFormat → Nat
  | gray8 | i420 => 1
  | yuy2 | uyvy => 2
  | rgb | bgr => 3
  | ayuv | xrgb | xbgr | rgbx | bgrx | argb | abgr | rgba | bgra => 4

/-- The samples that belong to one pixel alone, each with its distance from the first byte of
the pixel. -/
def components : VideoFormat → List (Component × Nat)
  | gray8 => [(.luma, 0)]
  | i420 => [(.luma, 0)]
  | ayuv => [(.alpha, 0), (.luma, 1), (.cb, 2), (.cr, 3)]
  | yuy2 => [(.luma, 0)]
  | uyvy => [(.luma, 1)]
  | xrgb => [(.filler, 0), (.red, 1), (.green, 2), (.blue, 3)]
  | xbgr => [(.filler, 0), (.blue, 1), (.green, 2), (.red, 3)]
  | rgbx => [(.red, 0), (.green, 1), (.blue, 2), (.filler, 3)]
  | bgrx => [(.blue, 0), (.green, 1), (.red, 2), (.filler, 3)]
  | argb => [(.alpha, 0), (.red, 1), (.green, 2), (.blue, 3)]
  | abgr => [(.alpha, 0), (.blue, 1), (.green, 2), (.red, 3)]
  | rgba => [(.red, 0), (.green, 1), (.blue, 2), (.alpha, 3)]
  | bgra => [(.blue, 0), (.green, 1), (.red, 2), (.alpha, 3)]
  | rgb => [(.red, 0), (.green, 1), (.blue, 2)]
  | bgr => [(.blue, 0), (.green, 1), (.red, 2)]

/-- Where the shared samples stand, in the formats that have some.  In the packed formats they
stand between the luma samples of two neighbouring pixels. -/
def sharedChroma? : VideoFormat → Option SharedChroma
  | i420 => some ⟨2, 2, 1, 2, 1, 0, 0⟩
  | yuy2 => some ⟨2, 1, 0, 0, 4, 1, 3⟩
  | uyvy => some ⟨2, 1, 0, 0, 4, 0, 2⟩
  | _ => none

end VideoFormat

end Captioning
