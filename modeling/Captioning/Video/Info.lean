import Captioning.ClockTime
import Captioning.Error

/-!
# Frame descriptions

A description fixes the format, the size and the rate of frames, and with them where each
sample stands.
-/

namespace Captioning

/-- A plane: rows of equal length, one after the other. -/
structure Plane where
  /-- The first byte. -/
  offset : Nat
  /-- The number of bytes from one row to the next. -/
  stride : Nat
  rows : Nat
  deriving DecidableEq

/-- The first byte after a plane. -/
def Plane.stop (p : Plane) : Nat :=
  p.offset + p.stride * p.rows

/-- The description of frames. -/
structure VideoInfo where
  format : VideoFormat
  width : Nat
  height : Nat
  /-- The numerator of the frame rate; zero when the rate is unknown. -/
  fpsN : Nat
  /-- The denominator of the frame rate. -/
  fpsD : Nat
  width_pos : 0 < width
  height_pos : 0 < height
  deriving DecidableEq

namespace VideoInfo

/-- The description of frames of a given size, of unknown rate. -/
def make (format : VideoFormat) (width height : Nat) : Except CaptionError VideoInfo :=
  if h : 0 < width ∧ 0 < height then .ok ⟨format, width, height, 0, 1, h.1, h.2⟩
  else .error (.invalidFrame (.zeroSized width height))

/-- The description with a frame rate. -/
def withFramerate (info : VideoInfo) (fpsN fpsD : Nat) : VideoInfo :=
  { info with fpsN := fpsN, fpsD := fpsD }

/-- The duration of a frame, when the rate is known. -/
def frameDuration (info : VideoInfo) : Option ClockTime :=
  if info.fpsN = 0 ∨ info.fpsD = 0 then none
  else ClockTime.scale? ClockTime.second info.fpsD info.fpsN

/-! ## Planes -/

/-- The least multiple of four that is not below `n`. -/
def upToFour (n : Nat) : Nat :=
  (n + 3) / 4 * 4

/-- The least number of groups of `size` that hold `n`. -/
def groups (size n : Nat) : Nat :=
  (n + size - 1) / size

/-- The number of pixels stored in a row: those of the frame, and in the packed formats with
shared chroma the other pixel of the last block. -/
def storedColumns (info : VideoInfo) : Nat :=
  match info.format with
  | .yuy2 | .uyvy => 2 * groups 2 info.width
  | _ => info.width

/-- The plane of the samples that belong to one pixel alone.  The formats with four bytes for
each pixel need no padding at the end of a row. -/
def firstPlane (info : VideoInfo) : Plane :=
  ⟨0, upToFour (info.storedColumns * info.format.pixelSize), info.height⟩

/-- The planes of a frame, in their order in memory. -/
def planes (info : VideoInfo) : List Plane :=
  match info.format with
  | .i420 =>
      let luma := info.firstPlane
      let stride := upToFour (groups 2 info.width)
      let rows := groups 2 info.height
      let cb : Plane := ⟨luma.stop, stride, rows⟩
      [luma, cb, ⟨cb.stop, stride, rows⟩]
  | _ => [info.firstPlane]

/-- The plane of a given number; one that does not exist is empty. -/
def plane (info : VideoInfo) (i : Nat) : Plane :=
  info.planes.getD i ⟨0, 0, 0⟩

/-- The number of bytes of a frame. -/
def size (info : VideoInfo) : Nat :=
  match info.planes.getLast? with
  | some last => last.stop
  | none => 0

/-- What overflows when the number of bytes of a frame is computed, if it does not fit. -/
def sizeOverflow? (info : VideoInfo) : Option Overflow :=
  if info.size < longCount then none else some .frameSize

/-! ## Addresses -/

/-- Where a sample of the pixel in column `x` and row `y` stands, at the given distance from
the first byte of the pixel. -/
def address (info : VideoInfo) (x y offset : Nat) : Nat :=
  info.firstPlane.offset + y * info.firstPlane.stride + x * info.format.pixelSize + offset

/-- Where a sample shared by the block in column `x` and row `y` of blocks stands. -/
def chromaAddress (info : VideoInfo) (plane step x y offset : Nat) : Nat :=
  (info.plane plane).offset + y * (info.plane plane).stride + x * step + offset

end VideoInfo

end Captioning
