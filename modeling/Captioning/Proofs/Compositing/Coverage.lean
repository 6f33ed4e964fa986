import Captioning.Compositing.Blending
import Captioning.Proofs.Video.Samples
import Mathlib.Algebra.BigOperators.Group.List.Basic
import Mathlib.Algebra.Order.Ring.Nat

/-!
# Where an image is drawn

An image is drawn by a walk over the pixels of the frame on which it is visible, and a walk over
the blocks that have such a pixel.  Elsewhere nothing is shown, and a pixel that shows nothing
changes no sample, so every sample of the frame follows one rule, wherever it stands.
-/

namespace Captioning

/-- The pixel in column `i` and row `j` of an image whose upper left corner is at `(x, y)` falls on
the pixel `(fx, fy)` of the frame. -/
def FallsOn (x y : Int) (i j fx fy : Nat) : Prop :=
  (fx : Int) = x + i ∧ (fy : Int) = y + j

instance (x y : Int) (i j fx fy : Nat) : Decidable (FallsOn x y i j fx fy) :=
  inferInstanceAs (Decidable (_ ∧ _))

namespace Raster

variable {image : Raster} {x y : Int} {i j fx fy : Nat}

theorem cover_of_fallsOn (hi : i < image.width) (hj : j < image.height)
    (h : FallsOn x y i j fx fy) : image.cover x y fx fy = image.pixel i j := by
  have hcolumn : (fx : Int) - x = i := by rw [h.1]; omega
  have hrow : (fy : Int) - y = j := by rw [h.2]; omega
  simp only [cover, hcolumn, hrow]
  rw [if_pos (by omega)]
  rfl

theorem cover_of_forall_not (h : ∀ i < image.width, ∀ j < image.height, ¬FallsOn x y i j fx fy) :
    image.cover x y fx fy = Pixel.transparent := by
  rw [cover]
  refine if_neg ?_
  rintro ⟨hleft, hright, htop, hbottom⟩
  refine h ((fx : Int) - x).toNat (by omega) ((fy : Int) - y).toNat (by omega) ⟨?_, ?_⟩ <;> omega

/-- A place of the frame is covered by a pixel of the image or by nothing. -/
theorem cover_cases (image : Raster) (x y : Int) (fx fy : Nat) :
    (∃ i < image.width, ∃ j < image.height, FallsOn x y i j fx fy) ∨
      image.cover x y fx fy = Pixel.transparent := by
  by_cases h : ∃ i < image.width, ∃ j < image.height, FallsOn x y i j fx fy
  · exact .inl h
  · refine .inr (cover_of_forall_not fun i hi j hj hfalls => h ⟨i, hi, j, hj, hfalls⟩)

end Raster

/-- A pixel that shows nothing changes nothing. -/
theorem Pixel.change_of_alpha_eq_zero {p : Pixel} (h : p.alpha = 0) (component : Component)
    (sample : UInt8) : p.change component sample = sample :=
  if_pos h

namespace PixelSum

/-- A sum of pixels is the sum of each of their samples. -/
theorem ofList_eq (pixels : List Pixel) : ofList pixels =
    ⟨(pixels.map fun p => p.red.toNat).sum, (pixels.map fun p => p.green.toNat).sum,
      (pixels.map fun p => p.blue.toNat).sum, (pixels.map fun p => p.alpha.toNat).sum⟩ := by
  have hfold : ∀ s : PixelSum, pixels.foldl add s =
      ⟨s.red + (pixels.map fun p => p.red.toNat).sum,
        s.green + (pixels.map fun p => p.green.toNat).sum,
        s.blue + (pixels.map fun p => p.blue.toNat).sum,
        s.alpha + (pixels.map fun p => p.alpha.toNat).sum⟩ := by
    induction pixels with
    | nil => intro s; rfl
    | cons p pixels ih =>
        intro s
        rw [List.foldl_cons, ih]
        simp only [add, List.map_cons, List.sum_cons, Nat.add_assoc]
  rw [ofList, hfold]
  simp only [Nat.zero_add]

theorem alpha_ofList_eq_zero {pixels : List Pixel} (h : ∀ p ∈ pixels, p.alpha = 0) :
    (ofList pixels).alpha = 0 := by
  rw [ofList_eq]
  refine List.sum_eq_zero fun n hn => ?_
  obtain ⟨p, hp, rfl⟩ := List.mem_map.mp hn
  rw [h p hp]
  rfl

theorem change_of_alpha_eq_zero {s : PixelSum} (h : s.alpha = 0) (count : Nat)
    (component : Component) (sample : UInt8) : s.change count component sample = sample :=
  if_pos h

end PixelSum

namespace Span

variable {s : Span} {start : Int} {image frame size n : Nat}

/-- An image is visible where it and the frame overlap. -/
theorem mem_visible : n ∈ (Span.visible start image frame).toList ↔
    n < frame ∧ ∃ i < image, (n : Int) = start + i := by
  rw [mem_toList]
  simp only [visible, clamped, between]
  constructor
  · rintro ⟨hfirst, hlast⟩
    exact ⟨by omega, ((n : Int) - start).toNat, by omega, by omega⟩
  · rintro ⟨hn, i, hi, hfalls⟩
    omega

/-- A group is passed if one of its numbers is in the span. -/
theorem mem_grouped (hsize : 0 < size) :
    n ∈ (s.grouped size).toList ↔ ∃ i ∈ s.toList, i / size = n := by
  simp only [mem_toList]
  unfold grouped
  split
  next hempty =>
    simp only [hempty]
    constructor
    · omega
    · rintro ⟨i, hi, -⟩
      omega
  next hcount =>
    simp only [between]
    constructor
    · rintro ⟨hfirst, hlast⟩
      -- the first number of the span, or the first one of the group
      have hle : n ≤ (s.first + s.count - 1) / size := by omega
      rcases Nat.lt_or_ge (n * size) s.first with hbefore | hinside
      · refine ⟨s.first, by omega, Nat.le_antisymm hfirst ?_⟩
        exact (Nat.le_div_iff_mul_le hsize).mpr (Nat.le_of_lt hbefore)
      · have hend := (Nat.le_div_iff_mul_le hsize).mp hle
        exact ⟨n * size, by omega, Nat.mul_div_cancel n hsize⟩
    · rintro ⟨i, ⟨hfirst, hlast⟩, rfl⟩
      have hlow := Nat.div_le_div_right (c := size) hfirst
      have hhigh := Nat.div_le_div_right (c := size) (show i ≤ s.first + s.count - 1 by omega)
      omega

/-- The numbers of a group. -/
theorem mem_group {limit i : Nat} (hsize : 0 < size) :
    n ∈ (Span.group size limit i).toList ↔ n < limit ∧ n / size = i := by
  rw [mem_toList, Nat.div_eq_iff hsize]
  simp only [group]
  omega

end Span

theorem Grid.edits_of_empty {g : Grid} {info : VideoInfo} {pass : Pass}
    (h : pass.columns.count = 0 ∨ pass.rows.count = 0) : g.edits info pass = [] := by
  rcases h with h | h <;> simp [Grid.edits, Span.toList, h]

namespace VideoFrame

/-! ## The walks -/

variable {info : VideoInfo} {shared : SharedChroma} {image : Raster} {x y : Int}
  {fx fy column row : Nat}

/-- The places of the frame on which an image is visible are pixels of the frame. -/
theorem visible_within (change : Nat → Nat → Component → UInt8 → UInt8) :
    Pass.Within ⟨Span.visible x image.width info.width, Span.visible y image.height info.height,
      change⟩ info.pixelGrid := by
  intro fx fy hvisit
  have hwidth := info.width_le_storedColumns
  have hfx := (Span.mem_visible.mp hvisit.1).1
  exact ⟨hfx.trans_le hwidth, (Span.mem_visible.mp hvisit.2).1⟩

/-- The blocks on which an image is visible are blocks of the frame. -/
theorem grouped_within (h : info.format.sharedChroma? = some shared)
    (change : Nat → Nat → Component → UInt8 → UInt8) :
    Pass.Within ⟨(Span.visible x image.width info.width).grouped shared.columns,
      (Span.visible y image.height info.height).grouped shared.rows, change⟩
      (info.blockGrid shared) := by
  intro column row hvisit
  have hsound := VideoFormat.shared_sound h
  obtain ⟨fx, hfx, rfl⟩ := (Span.mem_grouped hsound.columns_pos).mp hvisit.1
  obtain ⟨fy, hfy, rfl⟩ := (Span.mem_grouped hsound.rows_pos).mp hvisit.2
  refine ⟨(VideoInfo.lt_groups_iff hsound.columns_pos).mpr ?_,
    (VideoInfo.lt_groups_iff hsound.rows_pos).mpr ?_⟩
  · exact (Nat.div_mul_le_self _ _).trans_lt (Span.mem_visible.mp hfx).1
  · exact (Nat.div_mul_le_self _ _).trans_lt (Span.mem_visible.mp hfy).1

/-- The walks that draw an image at `(x, y)`. -/
def drawing (info : VideoInfo) (image : Raster) (x y : Int) : Redrawing info where
  own := ⟨Span.visible x image.width info.width, Span.visible y image.height info.height,
    fun fx fy => (image.cover x y fx fy).change⟩
  blocks shared := ⟨(Span.visible x image.width info.width).grouped shared.columns,
    (Span.visible y image.height info.height).grouped shared.rows,
    blockChange info shared image x y⟩
  own_within := visible_within _
  blocks_within _ h := grouped_within h _

theorem blendData_eq (info : VideoInfo) (image : Raster) (x y : Int) (data : Array UInt8) :
    blendData info image x y data = Edit.applyAll (drawing info image x y).edits data := by
  rw [Redrawing.edits, Edit.applyAll_append]
  unfold blendData
  dsimp only
  rw [VideoInfo.mapPixels_eq]
  split
  next shared h =>
    rw [Redrawing.blockEdits_of_some _ h]
    split
    next hempty =>
      -- where nothing is visible, no block is passed
      have hnone : (info.blockGrid shared).edits info ((drawing info image x y).blocks shared) =
          [] :=
        Grid.edits_of_empty <| hempty.imp (fun h => by simp [drawing, Span.grouped, h])
          fun h => by simp [drawing, Span.grouped, h]
      rw [hnone]
      rfl
    next => exact VideoInfo.mapChroma_eq info shared _ _ _ _
  next h =>
    rw [Redrawing.blockEdits_of_none _ h]
    rfl

/-- Drawing an image is a redrawing. -/
theorem blend_eq_redrawn (frame : VideoFrame) (image : Raster) (x y : Int) :
    frame.blend image x y = frame.redrawn (drawing frame.info image x y) := by
  simp only [blend, redrawn, blendData_eq]

/-- The walk over the pixels passes those on which a pixel of the image falls. -/
theorem visits_own_iff : (drawing info image x y).own.Visits fx fy ↔
    (fx < info.width ∧ fy < info.height) ∧
      ∃ i < image.width, ∃ j < image.height, FallsOn x y i j fx fy := by
  simp only [Pass.Visits, drawing, Span.mem_visible]
  constructor
  · rintro ⟨⟨hfx, i, hi, hcolumn⟩, hfy, j, hj, hrow⟩
    exact ⟨⟨hfx, hfy⟩, i, hi, j, hj, hcolumn, hrow⟩
  · rintro ⟨⟨hfx, hfy⟩, i, hi, j, hj, hcolumn, hrow⟩
    exact ⟨⟨hfx, i, hi, hcolumn⟩, hfy, j, hj, hrow⟩

/-- The walk over the blocks passes those that have a pixel on which a pixel of the image
falls. -/
theorem visits_blocks_iff (h : shared.Sound) :
    ((drawing info image x y).blocks shared).Visits column row ↔
      ∃ fx fy, (drawing info image x y).own.Visits fx fy ∧ fx / shared.columns = column ∧
        fy / shared.rows = row := by
  simp only [Pass.Visits, drawing, Span.mem_grouped h.columns_pos, Span.mem_grouped h.rows_pos]
  constructor
  · rintro ⟨⟨fx, hfx, hcolumn⟩, fy, hfy, hrow⟩
    exact ⟨fx, fy, ⟨hfx, hfy⟩, hcolumn, hrow⟩
  · rintro ⟨fx, fy, ⟨hfx, hfy⟩, hcolumn, hrow⟩
    exact ⟨⟨fx, hfx, hcolumn⟩, fy, hfy, hrow⟩

theorem mem_coverBlock (h : shared.Sound) {p : Pixel} :
    p ∈ coverBlock info shared image x y column row ↔
      ∃ fx fy, (fx < info.width ∧ fx / shared.columns = column) ∧
        (fy < info.height ∧ fy / shared.rows = row) ∧ image.cover x y fx fy = p := by
  simp only [coverBlock, List.mem_flatMap, List.mem_map, Span.mem_group h.rows_pos,
    Span.mem_group h.columns_pos]
  constructor
  · rintro ⟨fy, hfy, fx, hfx, hp⟩
    exact ⟨fx, fy, hfx, hfy, hp⟩
  · rintro ⟨fx, fy, hfx, hfy, hp⟩
    exact ⟨fy, hfy, fx, hfx, hp⟩

/-! ## Samples of the drawn frame -/

variable {frame : VideoFrame} {component : Component} {plane offset : Nat}

/-- A sample of a pixel becomes what the image does to it there. -/
theorem sample_blend (hfx : fx < frame.info.width) (hfy : fy < frame.info.height)
    (hc : (component, offset) ∈ frame.info.format.components) :
    (frame.blend image x y).sample fx fy offset =
      (image.cover x y fx fy).change component (frame.sample fx fy offset) := by
  have hstored : fx < frame.info.storedColumns :=
    hfx.trans_le frame.info.width_le_storedColumns
  rw [blend_eq_redrawn, sample_redrawn _ hstored hfy hc]
  split
  next => rfl
  next hnovisit =>
    rcases image.cover_cases x y fx fy with hfalls | hcover
    · exact absurd (visits_own_iff.mpr ⟨⟨hfx, hfy⟩, hfalls⟩) hnovisit
    · rw [hcover, Pixel.change_of_alpha_eq_zero rfl]

/-- A sample of a block becomes what the pixels of the image that fall on the block do to it. -/
theorem sharedSample_blend (h : frame.info.format.sharedChroma? = some shared)
    (hcolumn : column < VideoInfo.groups shared.columns frame.info.width)
    (hrow : row < VideoInfo.groups shared.rows frame.info.height)
    (hplace : (component, plane, offset) ∈ shared.places) :
    (frame.blend image x y).sharedSample shared column row plane offset =
      blockChange frame.info shared image x y column row component
        (frame.sharedSample shared column row plane offset) := by
  have hsound := VideoFormat.shared_sound h
  rw [blend_eq_redrawn, sharedSample_redrawn _ h hcolumn hrow hplace]
  split
  next => rfl
  next hnovisit =>
    -- nothing falls on the block, so what is shown there adds up to nothing
    refine (PixelSum.change_of_alpha_eq_zero (PixelSum.alpha_ofList_eq_zero ?_) _ _ _).symm
    intro p hp
    obtain ⟨fx, fy, hfx, hfy, rfl⟩ := (mem_coverBlock hsound).mp hp
    rcases image.cover_cases x y fx fy with hfalls | hcover
    · exact absurd ((visits_blocks_iff hsound).mpr
        ⟨fx, fy, visits_own_iff.mpr ⟨⟨hfx.1, hfy.1⟩, hfalls⟩, hfx.2, hfy.2⟩) hnovisit
    · rw [hcover]
      rfl

end VideoFrame

end Captioning
