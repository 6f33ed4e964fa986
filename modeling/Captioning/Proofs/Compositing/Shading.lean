import Captioning.Compositing.Shading
import Captioning.Proofs.Video.Colors
import Captioning.Proofs.Video.Samples

/-!
# Darkened boxes

Shading walks over the pixels of a box and lowers some bytes of each of them.  No byte belongs to
two pixels, so it is lowered at most once, and what becomes of a byte depends on nothing but whether
one of the pixels of the box has it.  Lowering by two values, one after the other, is lowering by
their sum; this is why boxes may be shaded in any order.
-/

namespace Captioning

/-! ## Lowered samples -/

theorem toNat_lowered (value sample : UInt8) :
    (lowered value sample).toNat = sample.toNat - value.toNat := by
  have hsample := toNat_le_255 sample
  rw [lowered, UInt8.toNat_ofNat']
  omega

theorem lowered_comm (value value' sample : UInt8) :
    lowered value (lowered value' sample) = lowered value' (lowered value sample) := by
  apply UInt8.toNat.inj
  simp only [toNat_lowered]
  exact Nat.sub_right_comm _ _ _

/-- Two values lower a sample by their sum, or to zero. -/
theorem lowered_lowered (value value' sample : UInt8) :
    lowered value' (lowered value sample) =
      lowered (UInt8.ofNat (min 255 (value.toNat + value'.toNat))) sample := by
  apply UInt8.toNat.inj
  have hsample := toNat_le_255 sample
  simp only [toNat_lowered, UInt8.toNat_ofNat']
  omega

/-! ## The bytes of a pixel -/

/-- The bytes of a pixel that shading lowers, by their distance from its first byte: those of luma
or of red, green and blue, and all four bytes of a pixel that a filler completes. -/
def VideoFormat.shadedOffsets : VideoFormat → List Nat
  | .gray8 | .i420 | .yuy2 => [0]
  | .ayuv | .uyvy => [1]
  | .rgb | .bgr | .rgba | .bgra => [0, 1, 2]
  | .argb | .abgr => [1, 2, 3]
  | .xrgb | .xbgr | .rgbx | .bgrx => [0, 1, 2, 3]

namespace VideoFormat

theorem isShaded_iff (format : VideoFormat) : ∀ c ∈ format.components,
    c.1.isShaded = true ↔ c.2 ∈ format.shadedOffsets := by
  cases format <;> decide

theorem exists_component (format : VideoFormat) : ∀ offset ∈ format.shadedOffsets,
    ∃ c ∈ format.components, c.2 = offset := by
  cases format <;> decide

end VideoFormat

/-- The pixel in column `fx` and row `fy` lies in the box from column `x0` up to `x1` and from row
`y0` up to `y1`. -/
def InBox (x0 y0 x1 y1 : Int) (fx fy : Nat) : Prop :=
  (x0 ≤ fx ∧ fx < x1) ∧ y0 ≤ fy ∧ fy < y1

theorem Span.mem_clamped {first last : Int} {limit n : Nat} :
    n ∈ (Span.clamped first last limit).toList ↔ n < limit ∧ first ≤ n ∧ n < last := by
  rw [mem_toList]
  simp only [clamped, between]
  omega

namespace VideoInfo

variable {info : VideoInfo} {x0 y0 x1 y1 : Int} {value : UInt8} {fx fy i : Nat}

/-! ## The lowered bytes -/

/-- The byte at an address is one that shading lowers in a pixel of the box. -/
def Shades (info : VideoInfo) (x0 y0 x1 y1 : Int) (i : Nat) : Prop :=
  ∃ fx < info.width, ∃ fy < info.height, InBox x0 y0 x1 y1 fx fy ∧
    ∃ offset ∈ info.format.shadedOffsets, info.address fx fy offset = i

/-- The grid of pixels with the samples that shading lowers. -/
def shadedGrid (info : VideoInfo) : Grid where
  columns := info.width
  rows := info.height
  sites x y := (info.pixelGrid.sites x y).filter fun site => site.1.isShaded

theorem shadedGrid_sound (info : VideoInfo) : info.shadedGrid.Sound info where
  held x hx y hy site hsite :=
    info.pixelGrid_sound.held x (hx.trans_le info.width_le_storedColumns) y hy site
      (List.mem_filter.mp hsite).1
  apart x hx y hy x' hx' y' hy' site hsite site' hsite' :=
    info.pixelGrid_sound.apart x (hx.trans_le info.width_le_storedColumns) y hy
      x' (hx'.trans_le info.width_le_storedColumns) y' hy' site (List.mem_filter.mp hsite).1
      site' (List.mem_filter.mp hsite').1
  nodup x y := (info.pixelGrid_sound.nodup x y).sublist (List.filter_sublist.map Prod.snd)

/-- The walk over the pixels of a box in which each sample that it comes to is lowered. -/
def lowering (info : VideoInfo) (x0 y0 x1 y1 : Int) (value : UInt8) : Pass where
  columns := .clamped x0 x1 info.width
  rows := .clamped y0 y1 info.height
  change _ _ _ := lowered value

theorem visits_lowering_iff : (info.lowering x0 y0 x1 y1 value).Visits fx fy ↔
    fx < info.width ∧ fy < info.height ∧ InBox x0 y0 x1 y1 fx fy := by
  simp only [Pass.Visits, lowering, Span.mem_clamped, InBox]
  tauto

theorem lowering_within : (info.lowering x0 y0 x1 y1 value).Within info.shadedGrid := by
  intro fx fy hvisit
  have hpixel := visits_lowering_iff.mp hvisit
  exact ⟨hpixel.1, hpixel.2.1⟩

/-- The changes that shading makes. -/
def shadeEdits (info : VideoInfo) (x0 y0 x1 y1 : Int) (value : UInt8) : List Edit :=
  info.shadedGrid.edits info (info.lowering x0 y0 x1 y1 value)

theorem mem_shadeEdits {e : Edit} : e ∈ info.shadeEdits x0 y0 x1 y1 value ↔
    info.Shades x0 y0 x1 y1 e.address ∧ e.change = lowered value := by
  rw [shadeEdits, Grid.mem_edits]
  constructor
  · rintro ⟨fx, fy, hvisit, site, hsite, rfl⟩
    obtain ⟨hfx, hfy, hbox⟩ := visits_lowering_iff.mp hvisit
    obtain ⟨hpixel, hshaded⟩ := List.mem_filter.mp hsite
    obtain ⟨c, hc, rfl⟩ := List.mem_map.mp hpixel
    exact ⟨⟨fx, hfx, fy, hfy, hbox, c.2, (info.format.isShaded_iff c hc).mp hshaded,
      (info.spotAddress_pixelSpot fx fy c.2).symm⟩, rfl⟩
  · rintro ⟨⟨fx, hfx, fy, hfy, hbox, offset, hoffset, haddress⟩, hchange⟩
    obtain ⟨c, hc, rfl⟩ := info.format.exists_component offset hoffset
    refine ⟨fx, fy, visits_lowering_iff.mpr ⟨hfx, hfy, hbox⟩, (c.1, info.pixelSpot fx fy c.2),
      List.mem_filter.mpr ⟨List.mem_map.mpr ⟨c, hc, rfl⟩,
        (info.format.isShaded_iff c hc).mpr hoffset⟩, ?_⟩
    obtain ⟨address, change⟩ := e
    simp only [Edit.mk.injEq]
    exact ⟨by rw [spotAddress_pixelSpot]; exact haddress.symm, hchange⟩

/-- The changes of shading are those of a walk over all samples in which alpha and chroma stay. -/
theorem mapPixels_shadeChange (info : VideoInfo) (x0 y0 x1 y1 : Int) (value : UInt8)
    (data : Array UInt8) :
    info.mapPixels (.clamped x0 x1 info.width) (.clamped y0 y1 info.height)
        (fun _ _ => shadeChange value) data =
      Edit.applyAll (info.shadeEdits x0 y0 x1 y1 value) data := by
  rw [mapPixels_eq]
  simp only [shadeEdits, Grid.edits, lowering, Edit.applyAll_flatMap]
  congr 1
  funext d fy
  congr 1
  funext d fx
  symm
  apply Edit.applyAll_filter
  · intro site hshaded
    simp only [Edit.mk.injEq, true_and]
    funext sample
    exact (if_pos hshaded).symm
  · intro site hkept
    funext sample
    exact if_neg (by simp [hkept])

end VideoInfo

namespace VideoFrame

theorem shadeBox_data_eq (frame : VideoFrame) (x0 y0 x1 y1 : Int) (value : UInt8) :
    (frame.shadeBox x0 y0 x1 y1 value).data =
      Edit.applyAll (frame.info.shadeEdits x0 y0 x1 y1 value) frame.data :=
  VideoInfo.mapPixels_shadeChange _ _ _ _ _ _ _

@[simp] theorem info_shadeBox (frame : VideoFrame) (x0 y0 x1 y1 : Int) (value : UInt8) :
    (frame.shadeBox x0 y0 x1 y1 value).info = frame.info := rfl

theorem size_shadeBox (frame : VideoFrame) (x0 y0 x1 y1 : Int) (value : UInt8) :
    (frame.shadeBox x0 y0 x1 y1 value).data.size = frame.data.size :=
  VideoInfo.size_mapPixels _ _ _ _ _

/-- All that shading accesses is there, and no byte is lowered twice. -/
structure ShadeAccesses (frame : VideoFrame) (x0 y0 x1 y1 : Int) (value : UInt8) : Prop where
  /-- The darkened frame comes about by changes of single bytes. -/
  data_eq : (frame.shadeBox x0 y0 x1 y1 value).data =
    Edit.applyAll (frame.info.shadeEdits x0 y0 x1 y1 value) frame.data
  /-- They are the bytes that shading lowers in the pixels of the box, and each is lowered. -/
  changed : ∀ e, e ∈ frame.info.shadeEdits x0 y0 x1 y1 value ↔
    frame.info.Shades x0 y0 x1 y1 e.address ∧ e.change = lowered value
  once : ((frame.info.shadeEdits x0 y0 x1 y1 value).map Edit.address).Nodup
  held : ∀ e ∈ frame.info.shadeEdits x0 y0 x1 y1 value, e.address < frame.data.size

theorem shade_accesses (frame : VideoFrame) (x0 y0 x1 y1 : Int) (value : UInt8) :
    ShadeAccesses frame x0 y0 x1 y1 value where
  data_eq := shadeBox_data_eq frame x0 y0 x1 y1 value
  changed _ := VideoInfo.mem_shadeEdits
  once := frame.info.shadedGrid_sound.nodup_edits VideoInfo.lowering_within
  held _ he :=
    (frame.info.shadedGrid_sound.address_lt_size VideoInfo.lowering_within he).trans_le
      frame.size_le

/-! ## Bytes of the darkened frame -/

open Classical in
/-- A byte is lowered if shading lowers it in a pixel of the box, any other byte stays. -/
theorem byte_shadeBox (frame : VideoFrame) (x0 y0 x1 y1 : Int) (value : UInt8) (i : Nat) :
    (frame.shadeBox x0 y0 x1 y1 value).byte i =
      if frame.info.Shades x0 y0 x1 y1 i then lowered value (frame.byte i) else frame.byte i := by
  have haccesses := shade_accesses frame x0 y0 x1 y1 value
  simp only [byte, Array.getD_eq_getD_getElem?, haccesses.data_eq]
  split
  next hshades =>
    have he := (haccesses.changed ⟨i, lowered value⟩).mpr ⟨hshades, rfl⟩
    rw [Edit.getElem?_applyAll_of_mem haccesses.once he frame.data,
      Array.getElem?_eq_getElem (haccesses.held _ he)]
    rfl
  next hother =>
    rw [Edit.getElem?_applyAll_of_forall_ne]
    intro e he heq
    exact hother (heq ▸ ((haccesses.changed e).mp he).1)

/-- Boxes may be shaded in any order. -/
theorem shadeBox_comm (frame : VideoFrame) (x0 y0 x1 y1 : Int) (value : UInt8)
    (x0' y0' x1' y1' : Int) (value' : UInt8) :
    (frame.shadeBox x0 y0 x1 y1 value).shadeBox x0' y0' x1' y1' value' =
      (frame.shadeBox x0' y0' x1' y1' value').shadeBox x0 y0 x1 y1 value := by
  refine eq_of_bytes rfl rfl (by simp only [size_shadeBox]) ?_
  intro i
  simp only [byte_shadeBox, info_shadeBox]
  by_cases hfirst : frame.info.Shades x0 y0 x1 y1 i
  · by_cases hsecond : frame.info.Shades x0' y0' x1' y1' i
    · simp only [hfirst, hsecond, if_true]
      exact lowered_comm _ _ _
    · simp only [hfirst, hsecond, if_true, if_false]
  · by_cases hsecond : frame.info.Shades x0' y0' x1' y1' i
    · simp only [hfirst, hsecond, if_true, if_false]
    · simp only [hfirst, hsecond, if_false]

/-- Shading a box twice is shading it by the sum of the two values. -/
theorem shadeBox_shadeBox (frame : VideoFrame) (x0 y0 x1 y1 : Int) (value value' : UInt8) :
    (frame.shadeBox x0 y0 x1 y1 value).shadeBox x0 y0 x1 y1 value' =
      frame.shadeBox x0 y0 x1 y1 (UInt8.ofNat (min 255 (value.toNat + value'.toNat))) := by
  refine eq_of_bytes rfl rfl (by simp only [size_shadeBox]) ?_
  intro i
  simp only [byte_shadeBox, info_shadeBox]
  by_cases hshades : frame.info.Shades x0 y0 x1 y1 i
  · simp only [hshades, if_true]
    exact lowered_lowered _ _ _
  · simp only [hshades, if_false]

/-! ## Samples of the darkened frame -/

/-- A walk over the pixels of a box, and none over blocks. -/
def shading (info : VideoInfo) (x0 y0 x1 y1 : Int) (value : UInt8) : Redrawing info where
  own := ⟨.clamped x0 x1 info.width, .clamped y0 y1 info.height, fun _ _ => shadeChange value⟩
  blocks _ := ⟨⟨0, 0⟩, ⟨0, 0⟩, fun _ _ _ => id⟩
  own_within fx fy hvisit :=
    ⟨(Span.mem_clamped.mp hvisit.1).1.trans_le info.width_le_storedColumns,
      (Span.mem_clamped.mp hvisit.2).1⟩
  blocks_within _ _ _ _ hvisit := by simp [Pass.Visits, Span.toList] at hvisit

theorem shadeBox_eq_redrawn (frame : VideoFrame) (x0 y0 x1 y1 : Int) (value : UInt8) :
    frame.shadeBox x0 y0 x1 y1 value =
      frame.redrawn (shading frame.info x0 y0 x1 y1 value) := by
  have hblocks : (shading frame.info x0 y0 x1 y1 value).blockEdits = [] := by
    unfold Redrawing.blockEdits
    split
    · rfl
    · rfl
  simp only [shadeBox, redrawn, Redrawing.edits, hblocks, List.append_nil,
    VideoInfo.mapPixels_eq]
  rfl

/-- The second frame is the first one with some pixels darkened: in these pixels the bytes that
shading lowers are lower by the value, though not below zero, and all other bytes are the same. -/
structure Darkened (frame darkened : VideoFrame) (value : UInt8) (P : Nat → Nat → Prop) :
    Prop where
  info_eq : darkened.info = frame.info
  composition_eq : darkened.composition = frame.composition
  size_eq : darkened.data.size = frame.data.size
  lower : ∀ fx < frame.info.width, ∀ fy < frame.info.height, P fx fy →
    ∀ offset ∈ frame.info.format.shadedOffsets,
      (darkened.sample fx fy offset).toNat = (frame.sample fx fy offset).toNat - value.toNat
  /-- The other samples of pixels stay, such as alpha and whatever is outside of the pixels. -/
  sample_eq : ∀ fx < frame.info.width, ∀ fy < frame.info.height,
    ∀ c ∈ frame.info.format.components,
      ¬(P fx fy ∧ c.2 ∈ frame.info.format.shadedOffsets) →
        darkened.sample fx fy c.2 = frame.sample fx fy c.2
  /-- Chroma that blocks share stays. -/
  shared_eq : ∀ shared, frame.info.format.sharedChroma? = some shared →
    ∀ column < VideoInfo.groups shared.columns frame.info.width,
    ∀ row < VideoInfo.groups shared.rows frame.info.height, ∀ place ∈ shared.places,
      darkened.sharedSample shared column row place.2.1 place.2.2 =
        frame.sharedSample shared column row place.2.1 place.2.2
  /-- Whatever else there is stays, such as the ends of rows. -/
  byte_eq : ∀ i, (∀ fx < frame.info.width, ∀ fy < frame.info.height, P fx fy →
      ∀ offset ∈ frame.info.format.shadedOffsets, frame.info.address fx fy offset ≠ i) →
    darkened.byte i = frame.byte i

theorem darkened_shadeBox (frame : VideoFrame) (x0 y0 x1 y1 : Int) (value : UInt8) :
    Darkened frame (frame.shadeBox x0 y0 x1 y1 value) value (InBox x0 y0 x1 y1) where
  info_eq := rfl
  composition_eq := rfl
  size_eq := size_shadeBox frame x0 y0 x1 y1 value
  lower fx hfx fy hfy hbox offset hoffset := by
    have hshades : frame.info.Shades x0 y0 x1 y1 (frame.info.address fx fy offset) :=
      ⟨fx, hfx, fy, hfy, hbox, offset, hoffset, rfl⟩
    have hbyte := byte_shadeBox frame x0 y0 x1 y1 value (frame.info.address fx fy offset)
    rw [if_pos hshades] at hbyte
    exact (congrArg UInt8.toNat hbyte).trans (toNat_lowered _ _)
  sample_eq fx hfx fy hfy c hc hnot := by
    rw [shadeBox_eq_redrawn,
      sample_redrawn _ (hfx.trans_le frame.info.width_le_storedColumns) hfy hc]
    split
    next hvisit =>
      have hbox : InBox x0 y0 x1 y1 fx fy :=
        ⟨(Span.mem_clamped.mp hvisit.1).2, (Span.mem_clamped.mp hvisit.2).2⟩
      have hkept : ¬c.1.isShaded = true := by
        intro hshaded
        exact hnot ⟨hbox, (frame.info.format.isShaded_iff c hc).mp hshaded⟩
      exact if_neg hkept
    next => rfl
  shared_eq shared h column hcolumn row hrow place hplace := by
    rw [shadeBox_eq_redrawn, sharedSample_redrawn _ h hcolumn hrow hplace]
    split <;> rfl
  byte_eq i hother := by
    rw [byte_shadeBox, if_neg]
    rintro ⟨fx, hfx, fy, hfy, hbox, offset, hoffset, heq⟩
    exact hother fx hfx fy hfy hbox offset hoffset heq

/-- **Shading lowers a box.**  All that is accessed is there, and each byte is lowered at most once:
those of luma or colour in the pixels of the box, and the fillers beside them; every other byte
stays.  So boxes may be shaded in any order, and shading a box twice is shading it by the sum of the
two values. -/
theorem shading_lowers_box (frame : VideoFrame) (x0 y0 x1 y1 : Int) (value : UInt8) :
    let shaded := frame.shadeBox x0 y0 x1 y1 value
    ShadeAccesses frame x0 y0 x1 y1 value ∧
    Darkened frame shaded value (InBox x0 y0 x1 y1) ∧
    (∀ x0' y0' x1' y1' value', shaded.shadeBox x0' y0' x1' y1' value' =
      (frame.shadeBox x0' y0' x1' y1' value').shadeBox x0 y0 x1 y1 value) ∧
    ∀ value', shaded.shadeBox x0 y0 x1 y1 value' =
      frame.shadeBox x0 y0 x1 y1 (UInt8.ofNat (min 255 (value.toNat + value'.toNat))) := by
  intro shaded
  refine ⟨shade_accesses frame x0 y0 x1 y1 value, darkened_shadeBox frame x0 y0 x1 y1 value, ?_, ?_⟩
  · intro x0' y0' x1' y1' value'
    exact shadeBox_comm frame x0 y0 x1 y1 value x0' y0' x1' y1' value'
  · intro value'
    exact shadeBox_shadeBox frame x0 y0 x1 y1 value value'

/-- A box that reaches out of the frame: its one pixel inside loses colour, but no alpha. -/
example :
    let info : VideoInfo := ⟨.rgba, 2, 1, 0, 1, Nat.zero_lt_two, Nat.zero_lt_one⟩
    let frame : VideoFrame := ⟨info, #[100, 50, 200, 255, 100, 50, 200, 255], none, by decide⟩
    (frame.shadeBox (-5) (-5) 1 9 80).data = #[20, 0, 120, 255, 100, 50, 200, 255] := by
  decide

end VideoFrame

end Captioning
