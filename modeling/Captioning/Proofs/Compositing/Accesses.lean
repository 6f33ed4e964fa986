import Captioning.Proofs.Compositing.Coverage
import Mathlib.Algebra.BigOperators.Group.Finset.Basic

/-!
# What drawing an image accesses

Drawing reads pixels of the image and changes bytes of the frame.  For a block that shares its
chroma only the visible part of the block is read: the pixels that do not get anything from the
image add nothing to the sums.
-/

namespace Captioning

namespace Span

variable {s t : Span} {n : Nat}

/-- The numbers that two spans have in common. -/
def meet (s t : Span) : Span :=
  between (max s.first t.first) (min (s.first + s.count) (t.first + t.count))

theorem mem_meet : n ∈ (s.meet t).toList ↔ n ∈ s.toList ∧ n ∈ t.toList := by
  simp only [mem_toList, meet, between]
  omega

/-- What is zero outside of a second span has the same sum over the common part. -/
theorem sum_meet {f : Nat → Nat} (h : ∀ n ∈ s.toList, n ∉ t.toList → f n = 0) :
    ((s.meet t).toList.map f).sum = (s.toList.map f).sum := by
  rw [← List.sum_toFinset f (nodup_toList _), ← List.sum_toFinset f (nodup_toList _)]
  refine Finset.sum_subset ?_ ?_
  · intro n hn
    exact List.mem_toFinset.mpr (mem_meet.mp (List.mem_toFinset.mp hn)).1
  · intro n hn hnot
    refine h n (List.mem_toFinset.mp hn) fun ht => hnot ?_
    exact List.mem_toFinset.mpr (mem_meet.mpr ⟨List.mem_toFinset.mp hn, ht⟩)

end Span

/-- Whether the bytes of a pixel are there. -/
def Raster.HasPixel (image : Raster) (i j : Nat) : Prop :=
  (j * image.width + i) * 4 + 3 < image.pixels.size

theorem Raster.hasPixel_of_lt {image : Raster} (hwhole : image.isWellFormed = true) {i j : Nat}
    (hi : i < image.width) (hj : j < image.height) : image.HasPixel i j := by
  have hsize : image.pixels.size = image.width * image.height * 4 := of_decide_eq_true hwhole
  have hrow : (j + 1) * image.width ≤ image.width * image.height := by
    rw [Nat.mul_comm]
    exact Nat.mul_le_mul_left _ hj
  rw [Nat.add_mul, Nat.one_mul] at hrow
  rw [HasPixel, hsize]
  omega

namespace VideoFrame

variable {info : VideoInfo} {shared : SharedChroma} {image : Raster} {x y : Int}
  {column row : Nat}

/-- The places of the image that are read for a block: those that are on the visible part of the
block. -/
def visiblePlaces (info : VideoInfo) (shared : SharedChroma) (image : Raster) (x y : Int)
    (column row : Nat) : List (Nat × Nat) :=
  let columns := (Span.group shared.columns info.width column).meet
    (Span.visible x image.width info.width)
  let rows := (Span.group shared.rows info.height row).meet
    (Span.visible y image.height info.height)
  rows.toList.flatMap fun (fy : Nat) => columns.toList.map fun (fx : Nat) =>
    (((fx : Int) - x).toNat, ((fy : Int) - y).toNat)

theorem mem_visiblePlaces (h : shared.Sound) {q : Nat × Nat} :
    q ∈ visiblePlaces info shared image x y column row ↔
      q.1 < image.width ∧ q.2 < image.height ∧
        ∃ fx < info.width, ∃ fy < info.height, FallsOn x y q.1 q.2 fx fy ∧
          fx / shared.columns = column ∧ fy / shared.rows = row := by
  simp only [visiblePlaces, List.mem_flatMap, List.mem_map, Span.mem_meet,
    Span.mem_group h.rows_pos, Span.mem_group h.columns_pos, Span.mem_visible]
  constructor
  · rintro ⟨fy, ⟨⟨hfy, hrow⟩, -, j, hj, hfallsRow⟩, fx, ⟨⟨hfx, hcolumn⟩, -, i, hi, hfallsColumn⟩,
      rfl⟩
    refine ⟨by omega, by omega, fx, hfx, fy, hfy, ⟨?_, ?_⟩, hcolumn, hrow⟩ <;> dsimp only <;> omega
  · rintro ⟨hi, hj, fx, hfx, fy, hfy, ⟨hfallsColumn, hfallsRow⟩, hcolumn, hrow⟩
    refine ⟨fy, ⟨⟨hfy, hrow⟩, hfy, q.2, hj, hfallsRow⟩, fx,
      ⟨⟨hfx, hcolumn⟩, hfx, q.1, hi, hfallsColumn⟩, ?_⟩
    exact Prod.ext (by dsimp only; omega) (by dsimp only; omega)

/-- The pixel of the image that a visible place shows. -/
theorem cover_of_visible {fx fy : Nat}
    (hfx : fx ∈ (Span.visible x image.width info.width).toList)
    (hfy : fy ∈ (Span.visible y image.height info.height).toList) :
    image.cover x y fx fy = image.pixel ((fx : Int) - x).toNat ((fy : Int) - y).toNat := by
  obtain ⟨-, i, hi, hcolumn⟩ := Span.mem_visible.mp hfx
  obtain ⟨-, j, hj, hrow⟩ := Span.mem_visible.mp hfy
  rw [Raster.cover_of_fallsOn hi hj ⟨hcolumn, hrow⟩]
  congr 1 <;> omega

theorem cover_of_hidden {fx fy : Nat} (hfx : fx < info.width) (hfy : fy < info.height)
    (h : fx ∉ (Span.visible x image.width info.width).toList ∨
      fy ∉ (Span.visible y image.height info.height).toList) :
    image.cover x y fx fy = Pixel.transparent := by
  refine Raster.cover_of_forall_not fun i hi j hj hfalls => ?_
  rcases h with h | h
  · exact h (Span.mem_visible.mpr ⟨hfx, i, hi, hfalls.1⟩)
  · exact h (Span.mem_visible.mpr ⟨hfy, j, hj, hfalls.2⟩)

/-- Outside of the visible part of a block nothing is added to a sum. -/
theorem sum_coverBlock (h : shared.Sound) {f : Pixel → Nat} (hf : f Pixel.transparent = 0) :
    ((coverBlock info shared image x y column row).map f).sum =
      (((visiblePlaces info shared image x y column row).map fun q =>
        image.pixel q.1 q.2).map f).sum := by
  have hhidden : ∀ fx fy, fx ∈ (Span.group shared.columns info.width column).toList →
      fy ∈ (Span.group shared.rows info.height row).toList →
      (fx ∉ (Span.visible x image.width info.width).toList ∨
        fy ∉ (Span.visible y image.height info.height).toList) →
      f (image.cover x y fx fy) = 0 := by
    intro fx fy hfx hfy hnot
    rw [cover_of_hidden ((Span.mem_group h.columns_pos).mp hfx).1
      ((Span.mem_group h.rows_pos).mp hfy).1 hnot, hf]
  simp only [coverBlock, visiblePlaces, List.flatMap_def, List.map_flatten, List.map_map,
    List.sum_flatten, Function.comp_def]
  rw [← Span.sum_meet]
  · refine congrArg List.sum (List.map_congr_left fun fy hfy => ?_)
    obtain ⟨hgroup, hvisible⟩ := Span.mem_meet.mp hfy
    rw [← Span.sum_meet fun fx hfx hnot => hhidden fx fy hfx hgroup (.inl hnot)]
    refine congrArg List.sum (List.map_congr_left fun fx hfx => ?_)
    rw [cover_of_visible (Span.mem_meet.mp hfx).2 hvisible]
  · intro fy hfy hnot
    refine List.sum_eq_zero fun n hn => ?_
    obtain ⟨fx, hfx, rfl⟩ := List.mem_map.mp hn
    exact hhidden fx fy hfx hfy (.inr hnot)

/-- The sums over a block are the sums over its visible part. -/
theorem ofList_coverBlock (h : shared.Sound) :
    PixelSum.ofList (coverBlock info shared image x y column row) =
      PixelSum.ofList ((visiblePlaces info shared image x y column row).map fun q =>
        image.pixel q.1 q.2) := by
  rw [PixelSum.ofList_eq, PixelSum.ofList_eq]
  simp only [PixelSum.mk.injEq]
  exact ⟨sum_coverBlock h rfl, sum_coverBlock h rfl, sum_coverBlock h rfl, sum_coverBlock h rfl⟩

/-! ## Frames that come to be -/

/-- Whatever the bytes are, a frame does not come to be if the number of bytes that it needs does
not fit. -/
theorem ofData_eq_error_iff {data : Array UInt8} {overflow : Overflow} :
    ofData info data = .error overflow ↔ overflow = .frameSize ∧ longCount ≤ info.size := by
  unfold ofData VideoInfo.sizeOverflow?
  split
  next other hother =>
    split at hother
    next => cases hother
    next hlarge =>
      obtain rfl := Option.some.inj hother
      simp [eq_comm, Nat.le_of_not_lt hlarge]
  next hnone =>
    split at hnone
    next hfits => simp [hfits]
    next => cases hnone

/-- A frame is made of the bytes that it is given, if its size fits. -/
theorem ofData_eq_ok_iff {data : Array UInt8} {frame : VideoFrame} :
    ofData info data = .ok (.ok frame) ↔ info.size < longCount ∧ frame.info = info ∧
      frame.data = data ∧ frame.composition = none := by
  unfold ofData VideoInfo.sizeOverflow?
  by_cases hfits : info.size < longCount
  · simp only [hfits, if_true, true_and, Except.ok.injEq]
    constructor
    · intro hmade
      split at hmade
      next hsize =>
        obtain rfl := Except.ok.inj hmade
        exact ⟨rfl, rfl, rfl⟩
      next => cases hmade
    · rintro ⟨rfl, rfl, hcomposition⟩
      rw [dif_pos frame.size_le, ← hcomposition]
  · simp [hfits]

/-! ## All accesses -/

/-- All that drawing an image accesses is there, and no byte is changed twice. -/
structure BlendAccesses (frame : VideoFrame) (image : Raster) (x y : Int) : Prop where
  /-- The drawn frame comes about by changes of single bytes. -/
  data_eq : (frame.blend image x y).data =
    Edit.applyAll (drawing frame.info image x y).edits frame.data
  /-- These bytes are in the frame. -/
  changed : ∀ e ∈ (drawing frame.info image x y).edits, e.address < frame.data.size
  once : ((drawing frame.info image x y).edits.map Edit.address).Nodup
  /-- The planes of shared chroma exist. -/
  planes : ∀ shared, frame.info.format.sharedChroma? = some shared →
    ∀ place ∈ shared.places, place.2.1 < frame.info.planes.length
  /-- For each pixel of the frame that is passed, a pixel of the image is read, which is there. -/
  read : ∀ fx fy, (drawing frame.info image x y).own.Visits fx fy →
    let i := ((fx : Int) - x).toNat
    let j := ((fy : Int) - y).toNat
    image.cover x y fx fy = image.pixel i j ∧ image.HasPixel i j
  /-- For each block, the places of its visible part are read, which are there. -/
  readBlock : ∀ shared, frame.info.format.sharedChroma? = some shared → ∀ column row,
    let places := visiblePlaces frame.info shared image x y column row
    PixelSum.ofList (coverBlock frame.info shared image x y column row) =
        PixelSum.ofList (places.map fun q => image.pixel q.1 q.2) ∧
      ∀ q ∈ places, image.HasPixel q.1 q.2

theorem blend_accesses (frame : VideoFrame) (x y : Int) (hwhole : image.isWellFormed = true) :
    BlendAccesses frame image x y where
  data_eq := blendData_eq frame.info image x y frame.data
  changed e he := (Redrawing.address_lt_size _ he).trans_le frame.size_le
  once := Redrawing.nodup_edits _
  planes shared h place hplace := by
    have hsound := VideoFormat.shared_sound h
    have hcolumn : 0 < VideoInfo.groups shared.columns frame.info.width :=
      (VideoInfo.lt_groups_iff hsound.columns_pos).mpr (by
        rw [Nat.zero_mul]
        exact frame.info.width_pos)
    have hrow : 0 < VideoInfo.groups shared.rows frame.info.height :=
      (VideoInfo.lt_groups_iff hsound.rows_pos).mpr (by
        rw [Nat.zero_mul]
        exact frame.info.height_pos)
    exact (VideoInfo.hasSpot_blockSpot h hcolumn hrow hplace).plane
  read fx fy hvisit := by
    refine ⟨cover_of_visible hvisit.1 hvisit.2, ?_⟩
    obtain ⟨-, i, hi, hcolumn⟩ := Span.mem_visible.mp hvisit.1
    obtain ⟨-, j, hj, hrow⟩ := Span.mem_visible.mp hvisit.2
    exact Raster.hasPixel_of_lt hwhole (by omega) (by omega)
  readBlock shared h column row := by
    have hsound := VideoFormat.shared_sound h
    refine ⟨ofList_coverBlock hsound, fun q hq => ?_⟩
    obtain ⟨hi, hj, -⟩ := (mem_visiblePlaces hsound).mp hq
    exact Raster.hasPixel_of_lt hwhole hi hj

end VideoFrame

end Captioning
