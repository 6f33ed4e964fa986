import Captioning.Proofs.Video.Grids

/-!
# Redrawing the samples of a frame

A frame is redrawn by a walk over its pixels and, in the formats with shared chroma, a walk over
its blocks.  The samples that the two walks change stand apart, so each sample of the frame becomes
what one walk makes of it, and all that is not a sample stays.
-/

namespace Captioning

namespace VideoFrame

/-- The byte at an address. -/
def byte (frame : VideoFrame) (i : Nat) : UInt8 :=
  frame.data.getD i 0

/-- The sample of a pixel at a distance from the first byte of the pixel. -/
def sample (frame : VideoFrame) (x y offset : Nat) : UInt8 :=
  frame.byte (frame.info.address x y offset)

/-- The sample of a block in a plane, at a distance from the first byte of the block. -/
def sharedSample (frame : VideoFrame) (shared : SharedChroma) (x y plane offset : Nat) : UInt8 :=
  frame.byte (frame.info.chromaAddress plane shared.step x y offset)

/-- Frames of the same kind and size with the same bytes are the same frame. -/
theorem eq_of_bytes {frame frame' : VideoFrame} (hinfo : frame.info = frame'.info)
    (hcomposition : frame.composition = frame'.composition)
    (hsize : frame.data.size = frame'.data.size) (hbytes : ∀ i, frame.byte i = frame'.byte i) :
    frame = frame' := by
  obtain ⟨info, data, composition, hle⟩ := frame
  obtain ⟨info', data', composition', hle'⟩ := frame'
  obtain rfl : info = info' := hinfo
  obtain rfl : composition = composition' := hcomposition
  have hdata : data = data' := by
    apply Array.ext hsize
    intro i hi hi'
    have hbyte := hbytes i
    simp only [byte, Array.getD_eq_getD_getElem?, Array.getElem?_eq_getElem hi,
      Array.getElem?_eq_getElem hi', Option.getD_some] at hbyte
    exact hbyte
  subst hdata
  rfl

end VideoFrame

/-- A walk over the pixels of a frame, and then one over its blocks. -/
structure Redrawing (info : VideoInfo) where
  own : Pass
  blocks : SharedChroma → Pass
  own_within : own.Within info.pixelGrid
  blocks_within : ∀ shared, info.format.sharedChroma? = some shared →
    (blocks shared).Within (info.blockGrid shared)

namespace Redrawing

variable {info : VideoInfo} {shared : SharedChroma} {x y : Nat} {e : Edit}

/-- The changes of the second walk; there are none in the formats without shared chroma. -/
def blockEdits (r : Redrawing info) : List Edit :=
  match info.format.sharedChroma? with
  | some shared => (info.blockGrid shared).edits info (r.blocks shared)
  | none => []

/-- The changes of both walks. -/
def edits (r : Redrawing info) : List Edit :=
  info.pixelGrid.edits info r.own ++ r.blockEdits

theorem blockEdits_of_some (r : Redrawing info) (h : info.format.sharedChroma? = some shared) :
    r.blockEdits = (info.blockGrid shared).edits info (r.blocks shared) := by
  simp only [blockEdits, h]

theorem blockEdits_of_none (r : Redrawing info) (h : info.format.sharedChroma? = none) :
    r.blockEdits = [] := by
  simp only [blockEdits, h]

/-- No change is outside of the frame. -/
theorem address_lt_size (r : Redrawing info) (he : e ∈ r.edits) : e.address < info.size := by
  rcases List.mem_append.mp he with hown | hblock
  · exact info.pixelGrid_sound.address_lt_size r.own_within hown
  · cases h : info.format.sharedChroma? with
    | none =>
        rw [r.blockEdits_of_none h] at hblock
        cases hblock
    | some shared =>
        rw [r.blockEdits_of_some h] at hblock
        exact (VideoInfo.blockGrid_sound h).address_lt_size (r.blocks_within shared h) hblock

/-- No byte is changed twice. -/
theorem nodup_edits (r : Redrawing info) : (r.edits.map Edit.address).Nodup := by
  have hown := info.pixelGrid_sound.nodup_edits r.own_within
  cases h : info.format.sharedChroma? with
  | none => rwa [edits, r.blockEdits_of_none h, List.append_nil]
  | some shared =>
      rw [edits, r.blockEdits_of_some h, List.map_append]
      refine hown.append ((VideoInfo.blockGrid_sound h).nodup_edits (r.blocks_within shared h)) ?_
      intro i hi hi'
      obtain ⟨e, he, rfl⟩ := List.mem_map.mp hi
      obtain ⟨e', he', heq⟩ := List.mem_map.mp hi'
      obtain ⟨x, y, hvisit, site, hsite, rfl⟩ := Grid.mem_edits.mp he
      obtain ⟨x', y', hvisit', site', hsite', rfl⟩ := Grid.mem_edits.mp he'
      exact VideoInfo.pixelSite_ne_blockSite h (r.own_within x y hvisit) hsite
        (r.blocks_within shared h x' y' hvisit') hsite' heq.symm

/-! ## The bytes -/

/-- A byte that holds no sample of a block stays in the second walk. -/
theorem getElem?_blockEdits (r : Redrawing info) {i : Nat}
    (hi : ∀ shared, info.format.sharedChroma? = some shared →
      ∀ x < VideoInfo.groups shared.columns info.width,
      ∀ y < VideoInfo.groups shared.rows info.height,
      ∀ site ∈ (info.blockGrid shared).sites x y, info.spotAddress site.2 ≠ i)
    (data : Array UInt8) : (Edit.applyAll r.blockEdits data)[i]? = data[i]? := by
  cases h : info.format.sharedChroma? with
  | none => rw [r.blockEdits_of_none h, Edit.applyAll_nil]
  | some shared =>
      rw [r.blockEdits_of_some h]
      exact Grid.getElem?_of_forall_ne (r.blocks_within shared h) (hi shared h) data

theorem getElem?_pixel (r : Redrawing info) (hx : x < info.storedColumns) (hy : y < info.height)
    {component : Component} {offset : Nat} (hc : (component, offset) ∈ info.format.components)
    (data : Array UInt8) :
    (Edit.applyAll r.edits data)[info.address x y offset]? =
      if r.own.Visits x y then data[info.address x y offset]?.map (r.own.change x y component)
      else data[info.address x y offset]? := by
  have hsite : (component, info.pixelSpot x y offset) ∈ info.pixelGrid.sites x y :=
    List.mem_map.mpr ⟨_, hc, rfl⟩
  rw [edits, Edit.applyAll_append, ← VideoInfo.spotAddress_pixelSpot]
  rw [r.getElem?_blockEdits fun shared h x' hx' y' hy' site' hsite' =>
    (VideoInfo.pixelSite_ne_blockSite h ⟨hx, hy⟩ hsite ⟨hx', hy'⟩ hsite').symm]
  exact info.pixelGrid_sound.getElem?_of_mem r.own_within ⟨hx, hy⟩ hsite data

theorem getElem?_block (r : Redrawing info) (h : info.format.sharedChroma? = some shared)
    (hx : x < VideoInfo.groups shared.columns info.width)
    (hy : y < VideoInfo.groups shared.rows info.height)
    {component : Component} {plane offset : Nat}
    (hplace : (component, plane, offset) ∈ shared.places) (data : Array UInt8) :
    (Edit.applyAll r.edits data)[info.chromaAddress plane shared.step x y offset]? =
      if (r.blocks shared).Visits x y then
        data[info.chromaAddress plane shared.step x y offset]?.map
          ((r.blocks shared).change x y component)
      else data[info.chromaAddress plane shared.step x y offset]? := by
  have hsite : (component, VideoInfo.blockSpot shared x y plane offset) ∈
      (info.blockGrid shared).sites x y :=
    List.mem_map.mpr ⟨_, hplace, rfl⟩
  rw [edits, Edit.applyAll_append, r.blockEdits_of_some h, ← VideoInfo.spotAddress_blockSpot]
  have hkept : (Edit.applyAll (info.pixelGrid.edits info r.own) data)[info.spotAddress
      (VideoInfo.blockSpot shared x y plane offset)]? =
        data[info.spotAddress (VideoInfo.blockSpot shared x y plane offset)]? :=
    Grid.getElem?_of_forall_ne r.own_within (fun x' hx' y' hy' site' hsite' =>
      VideoInfo.pixelSite_ne_blockSite h ⟨hx', hy'⟩ hsite' ⟨hx, hy⟩ hsite) data
  rw [(VideoInfo.blockGrid_sound h).getElem?_of_mem (r.blocks_within shared h) ⟨hx, hy⟩ hsite,
    hkept]

theorem getElem?_other (r : Redrawing info) {i : Nat}
    (hpixel : ∀ x < info.storedColumns, ∀ y < info.height, ∀ c ∈ info.format.components,
      info.address x y c.2 ≠ i)
    (hblock : ∀ shared, info.format.sharedChroma? = some shared →
      ∀ x < VideoInfo.groups shared.columns info.width,
      ∀ y < VideoInfo.groups shared.rows info.height, ∀ place ∈ shared.places,
        info.chromaAddress place.2.1 shared.step x y place.2.2 ≠ i)
    (data : Array UInt8) : (Edit.applyAll r.edits data)[i]? = data[i]? := by
  rw [edits, Edit.applyAll_append]
  rw [r.getElem?_blockEdits, Grid.getElem?_of_forall_ne r.own_within]
  · intro x hx y hy site hsite
    obtain ⟨c, hc, rfl⟩ := List.mem_map.mp hsite
    rw [VideoInfo.spotAddress_pixelSpot]
    exact hpixel x hx y hy c hc
  · intro shared h x hx y hy site hsite
    obtain ⟨place, hplace, rfl⟩ := List.mem_map.mp hsite
    rw [VideoInfo.spotAddress_blockSpot]
    exact hblock shared h x hx y hy place hplace

end Redrawing

/-! ## Frames -/

namespace VideoInfo

variable {info : VideoInfo} {shared : SharedChroma} {x y : Nat}

theorem address_lt_size (hx : x < info.storedColumns) (hy : y < info.height)
    {component : Component} {offset : Nat} (hc : (component, offset) ∈ info.format.components) :
    info.address x y offset < info.size := by
  rw [← spotAddress_pixelSpot]
  exact spotAddress_lt_size (hasSpot_pixelSpot hx hy (info.format.offset_lt_pixelSize _ hc))

theorem chromaAddress_lt_size (h : info.format.sharedChroma? = some shared)
    (hx : x < groups shared.columns info.width) (hy : y < groups shared.rows info.height)
    {component : Component} {plane offset : Nat}
    (hplace : (component, plane, offset) ∈ shared.places) :
    info.chromaAddress plane shared.step x y offset < info.size := by
  rw [← spotAddress_blockSpot]
  exact spotAddress_lt_size (hasSpot_blockSpot h hx hy hplace)

end VideoInfo

namespace VideoFrame

variable {frame : VideoFrame} {shared : SharedChroma} {x y : Nat}

/-- The frame after both walks. -/
def redrawn (frame : VideoFrame) (r : Redrawing frame.info) : VideoFrame :=
  { frame with
    data := Edit.applyAll r.edits frame.data
    size_le := by rw [Edit.size_applyAll]; exact frame.size_le }

theorem sample_redrawn (r : Redrawing frame.info) (hx : x < frame.info.storedColumns)
    (hy : y < frame.info.height) {component : Component} {offset : Nat}
    (hc : (component, offset) ∈ frame.info.format.components) :
    (frame.redrawn r).sample x y offset =
      if r.own.Visits x y then r.own.change x y component (frame.sample x y offset)
      else frame.sample x y offset := by
  have hlt : frame.info.address x y offset < frame.data.size :=
    (VideoInfo.address_lt_size hx hy hc).trans_le frame.size_le
  simp only [sample, byte, redrawn, Array.getD_eq_getD_getElem?, r.getElem?_pixel hx hy hc,
    Array.getElem?_eq_getElem hlt]
  split <;> rfl

theorem sharedSample_redrawn (r : Redrawing frame.info)
    (h : frame.info.format.sharedChroma? = some shared)
    (hx : x < VideoInfo.groups shared.columns frame.info.width)
    (hy : y < VideoInfo.groups shared.rows frame.info.height)
    {component : Component} {plane offset : Nat}
    (hplace : (component, plane, offset) ∈ shared.places) :
    (frame.redrawn r).sharedSample shared x y plane offset =
      if (r.blocks shared).Visits x y then
        (r.blocks shared).change x y component (frame.sharedSample shared x y plane offset)
      else frame.sharedSample shared x y plane offset := by
  have hlt : frame.info.chromaAddress plane shared.step x y offset < frame.data.size :=
    (VideoInfo.chromaAddress_lt_size h hx hy hplace).trans_le frame.size_le
  simp only [sharedSample, byte, redrawn, Array.getD_eq_getD_getElem?,
    r.getElem?_block h hx hy hplace, Array.getElem?_eq_getElem hlt]
  split <;> rfl

/-- A byte that is not a sample of the frame stays. -/
theorem byte_redrawn (r : Redrawing frame.info) {i : Nat}
    (hpixel : ∀ x < frame.info.storedColumns, ∀ y < frame.info.height,
      ∀ c ∈ frame.info.format.components, frame.info.address x y c.2 ≠ i)
    (hblock : ∀ shared, frame.info.format.sharedChroma? = some shared →
      ∀ x < VideoInfo.groups shared.columns frame.info.width,
      ∀ y < VideoInfo.groups shared.rows frame.info.height, ∀ place ∈ shared.places,
        frame.info.chromaAddress place.2.1 shared.step x y place.2.2 ≠ i) :
    (frame.redrawn r).byte i = frame.byte i := by
  simp only [byte, redrawn, Array.getD_eq_getD_getElem?, r.getElem?_other hpixel hblock]

end VideoFrame

end Captioning
