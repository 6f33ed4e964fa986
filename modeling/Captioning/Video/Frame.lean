import Captioning.Compositing.Composition
import Captioning.Video.Color
import Captioning.Video.Info

/-!
# Frames

A frame is a description together with as many bytes as it asks for.  Its samples are changed in
rectangles: of pixels, or of blocks of pixels that share their chroma.
-/

namespace Captioning

/-- A frame: its description, at least as many bytes as it needs, and perhaps an image that
another element is to draw on it. -/
structure VideoFrame where
  info : VideoInfo
  data : Array UInt8
  composition : Option Composition
  size_le : info.size ≤ data.size
  deriving DecidableEq

/-- A row of neighbouring numbers. -/
structure Span where
  first : Nat
  count : Nat
  deriving DecidableEq

namespace Span

/-- The numbers of a span in ascending order. -/
def toList (s : Span) : List Nat :=
  List.range' s.first s.count

/-- The numbers below `last` that are not below `first`. -/
def between (first last : Nat) : Span :=
  ⟨first, last - first⟩

/-- The groups of `size` numbers in which a number of the span lies. -/
def grouped (s : Span) (size : Nat) : Span :=
  if s.count = 0 then ⟨0, 0⟩
  else between (s.first / size) ((s.first + s.count - 1) / size + 1)

end Span

/-- How samples change: what becomes of a sample of a component. -/
abbrev SampleChange := Component → UInt8 → UInt8

namespace VideoInfo

/-- Changes the samples of one pixel. -/
def changePixel (info : VideoInfo) (x y : Nat) (change : SampleChange) (data : Array UInt8) :
    Array UInt8 :=
  info.format.components.foldl
    (fun d (component, offset) => d.modify (info.address x y offset) (change component)) data

/-- Changes the samples of all pixels in a rectangle. -/
def mapPixels (info : VideoInfo) (columns rows : Span) (change : Nat → Nat → SampleChange)
    (data : Array UInt8) : Array UInt8 :=
  rows.toList.foldl
    (fun d y => columns.toList.foldl (fun d x => info.changePixel x y (change x y) d) d) data

/-- Changes the samples that one block of pixels shares. -/
def changeBlock (info : VideoInfo) (shared : SharedChroma) (x y : Nat) (change : SampleChange)
    (data : Array UInt8) : Array UInt8 :=
  (data.modify (info.chromaAddress shared.cbPlane shared.step x y shared.cbOffset)
    (change .cb)).modify (info.chromaAddress shared.crPlane shared.step x y shared.crOffset)
      (change .cr)

/-- Changes the shared samples of all blocks in a rectangle of blocks. -/
def mapChroma (info : VideoInfo) (shared : SharedChroma) (columns rows : Span)
    (change : Nat → Nat → SampleChange) (data : Array UInt8) : Array UInt8 :=
  rows.toList.foldl
    (fun d y =>
      columns.toList.foldl (fun d x => info.changeBlock shared x y (change x y) d) d) data

/-- Changing samples changes no size. -/
theorem size_changePixel (info : VideoInfo) (x y : Nat) (change : SampleChange)
    (data : Array UInt8) : (info.changePixel x y change data).size = data.size := by
  unfold changePixel
  induction info.format.components generalizing data with
  | nil => rfl
  | cons c cs ih => simp [ih]

/-- Changing samples changes no size. -/
theorem size_mapPixels (info : VideoInfo) (columns rows : Span)
    (change : Nat → Nat → SampleChange) (data : Array UInt8) :
    (info.mapPixels columns rows change data).size = data.size := by
  unfold mapPixels
  induction rows.toList generalizing data with
  | nil => rfl
  | cons y ys ih =>
    rw [List.foldl_cons, ih]
    induction columns.toList generalizing data with
    | nil => rfl
    | cons x xs ih' => rw [List.foldl_cons, ih', size_changePixel]

/-- Changing samples changes no size. -/
theorem size_changeBlock (info : VideoInfo) (shared : SharedChroma) (x y : Nat)
    (change : SampleChange) (data : Array UInt8) :
    (info.changeBlock shared x y change data).size = data.size := by
  simp [changeBlock]

/-- Changing samples changes no size. -/
theorem size_mapChroma (info : VideoInfo) (shared : SharedChroma) (columns rows : Span)
    (change : Nat → Nat → SampleChange) (data : Array UInt8) :
    (info.mapChroma shared columns rows change data).size = data.size := by
  unfold mapChroma
  induction rows.toList generalizing data with
  | nil => rfl
  | cons y ys ih =>
    rw [List.foldl_cons, ih]
    induction columns.toList generalizing data with
    | nil => rfl
    | cons x xs ih' => rw [List.foldl_cons, ih', size_changeBlock]

end VideoInfo

namespace VideoFrame

/-- The frame with given bytes, which must be at least as many as the frame needs. -/
def ofData (info : VideoInfo) (data : Array UInt8) :
    Except Overflow (Except CaptionError VideoFrame) :=
  match info.sizeOverflow? with
  | some overflow => .error overflow
  | none =>
      .ok (if h : info.size ≤ data.size then .ok ⟨info, data, none, h⟩
        else .error (.invalidFrame
          (.tooShort info.format info.width info.height info.size data.size)))

/-- The samples of an opaque colour. -/
def sampleOf (red green blue : UInt8) : Component → UInt8
  | .red => red
  | .green => green
  | .blue => blue
  | .alpha => 255
  | .luma => (Yuv.ofRgb red green blue).y
  | .cb => (Yuv.ofRgb red green blue).cb
  | .cr => (Yuv.ofRgb red green blue).cr
  | .filler => 0

/-- The bytes of a frame of one opaque colour.  Bytes that hold no sample are zero. -/
def filledData (info : VideoInfo) (red green blue : UInt8) : Array UInt8 :=
  let change : Nat → Nat → SampleChange := fun _ _ component _ => sampleOf red green blue component
  let own := info.mapPixels ⟨0, info.storedColumns⟩ ⟨0, info.height⟩ change
    (Array.replicate info.size 0)
  match info.format.sharedChroma? with
  | some shared =>
      info.mapChroma shared ⟨0, VideoInfo.groups shared.columns info.width⟩
        ⟨0, VideoInfo.groups shared.rows info.height⟩ change own
  | none => own

/-- The bytes of a filled frame are as many as the frame needs. -/
theorem size_filledData (info : VideoInfo) (red green blue : UInt8) :
    (filledData info red green blue).size = info.size := by
  unfold filledData
  split <;> simp [VideoInfo.size_mapPixels, VideoInfo.size_mapChroma]

/-- The frame of one opaque colour. -/
def filled (info : VideoInfo) (red green blue : UInt8) : VideoFrame where
  info := info
  data := filledData info red green blue
  composition := none
  size_le := Nat.le_of_eq (size_filledData info red green blue).symm

/-- The black frame. -/
def black (info : VideoInfo) : VideoFrame :=
  filled info 0 0 0

end VideoFrame

end Captioning
