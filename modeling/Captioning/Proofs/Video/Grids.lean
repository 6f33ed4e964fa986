import Captioning.Proofs.Video.Addresses
import Captioning.Proofs.Video.Edits

/-!
# Samples in grids

The samples of a frame belong to the cells of a grid: those of a single pixel to the grid of
pixels, those that several pixels share to the grid of blocks.  Filling, shading and drawing walk
over a rectangle of such a grid and change the samples of each cell.  No two samples stand at the
same address, so what becomes of a sample depends on its own cell alone.
-/

namespace Captioning

/-- Cells in columns and rows, each with some samples of a frame. -/
structure Grid where
  columns : Nat
  rows : Nat
  /-- The samples of a cell, each with the spot where it stands. -/
  sites : Nat → Nat → List (Component × Spot)

/-- A walk over a rectangle of a grid. -/
structure Pass where
  columns : Span
  rows : Span
  /-- What becomes of the samples of a cell. -/
  change : Nat → Nat → SampleChange

namespace Grid

/-- The changes of a walk, row by row. -/
def edits (g : Grid) (info : VideoInfo) (pass : Pass) : List Edit :=
  pass.rows.toList.flatMap fun y => pass.columns.toList.flatMap fun x =>
    (g.sites x y).map fun (component, spot) => ⟨info.spotAddress spot, pass.change x y component⟩

/-- All samples are in the frame, and no two of them stand at the same spot. -/
structure Sound (g : Grid) (info : VideoInfo) : Prop where
  held : ∀ x < g.columns, ∀ y < g.rows, ∀ site ∈ g.sites x y, info.HasSpot site.2
  apart : ∀ x < g.columns, ∀ y < g.rows, ∀ x' < g.columns, ∀ y' < g.rows,
    ∀ site ∈ g.sites x y, ∀ site' ∈ g.sites x' y', site.2 = site'.2 → x = x' ∧ y = y'
  nodup : ∀ x y, ((g.sites x y).map Prod.snd).Nodup

end Grid

namespace Span

variable {s : Span} {i : Nat}

theorem mem_toList : i ∈ s.toList ↔ s.first ≤ i ∧ i < s.first + s.count := by
  simp [toList, List.mem_range'_1]

theorem nodup_toList (s : Span) : s.toList.Nodup :=
  List.nodup_range'

end Span

/-- Whether a walk passes a cell. -/
def Pass.Visits (pass : Pass) (x y : Nat) : Prop :=
  x ∈ pass.columns.toList ∧ y ∈ pass.rows.toList

instance (pass : Pass) (x y : Nat) : Decidable (pass.Visits x y) :=
  inferInstanceAs (Decidable (x ∈ pass.columns.toList ∧ y ∈ pass.rows.toList))

/-- A walk that does not leave the grid. -/
def Pass.Within (pass : Pass) (g : Grid) : Prop :=
  ∀ x y, pass.Visits x y → x < g.columns ∧ y < g.rows

namespace Grid

variable {g : Grid} {info : VideoInfo} {pass : Pass} {x y : Nat} {site : Component × Spot}
  {e : Edit}

theorem mem_edits : e ∈ g.edits info pass ↔
    ∃ x y, pass.Visits x y ∧ ∃ site ∈ g.sites x y,
      e = ⟨info.spotAddress site.2, pass.change x y site.1⟩ := by
  constructor
  · intro he
    simp only [edits, List.mem_flatMap, List.mem_map] at he
    obtain ⟨y, hy, x, hx, site, hsite, rfl⟩ := he
    exact ⟨x, y, ⟨hx, hy⟩, site, hsite, rfl⟩
  · rintro ⟨x, y, hvisit, site, hsite, rfl⟩
    simp only [edits, List.mem_flatMap, List.mem_map]
    exact ⟨y, hvisit.2, x, hvisit.1, site, hsite, rfl⟩

namespace Sound

/-- No change is outside of the frame. -/
theorem address_lt_size (h : g.Sound info) (hwithin : pass.Within g)
    (he : e ∈ g.edits info pass) : e.address < info.size := by
  obtain ⟨x, y, hvisit, site, hsite, rfl⟩ := mem_edits.mp he
  obtain ⟨hx, hy⟩ := hwithin x y hvisit
  exact VideoInfo.spotAddress_lt_size (h.held x hx y hy site hsite)

/-- Two samples at one address belong to the same cell. -/
theorem cell_inj (h : g.Sound info) {x' y' : Nat} {site' : Component × Spot}
    (hcell : x < g.columns ∧ y < g.rows) (hcell' : x' < g.columns ∧ y' < g.rows)
    (hsite : site ∈ g.sites x y) (hsite' : site' ∈ g.sites x' y')
    (heq : info.spotAddress site.2 = info.spotAddress site'.2) : x = x' ∧ y = y' :=
  h.apart x hcell.1 y hcell.2 x' hcell'.1 y' hcell'.2 site hsite site' hsite' <|
    VideoInfo.spotAddress_inj (h.held x hcell.1 y hcell.2 site hsite)
      (h.held x' hcell'.1 y' hcell'.2 site' hsite') heq

/-- The samples of a cell stand at different addresses. -/
theorem nodup_addresses (h : g.Sound info) (hcell : x < g.columns ∧ y < g.rows) :
    ((g.sites x y).map fun site => info.spotAddress site.2).Nodup := by
  have hmap : ((g.sites x y).map fun site => info.spotAddress site.2) =
      ((g.sites x y).map Prod.snd).map info.spotAddress := by
    rw [List.map_map]
    rfl
  rw [hmap]
  refine List.Nodup.map_on ?_ (h.nodup x y)
  intro s hs t ht heq
  obtain ⟨site, hsite, rfl⟩ := List.mem_map.mp hs
  obtain ⟨site', hsite', rfl⟩ := List.mem_map.mp ht
  exact VideoInfo.spotAddress_inj (h.held x hcell.1 y hcell.2 site hsite)
    (h.held x hcell.1 y hcell.2 site' hsite') heq

/-- No byte is changed twice. -/
theorem nodup_edits (h : g.Sound info) (hwithin : pass.Within g) :
    ((g.edits info pass).map Edit.address).Nodup := by
  have hrow : ∀ y ∈ pass.rows.toList, (pass.columns.toList.flatMap fun x =>
      (g.sites x y).map fun site => info.spotAddress site.2).Nodup := by
    intro y hy
    refine List.nodup_flatMap.mpr
      ⟨fun x hx => h.nodup_addresses (hwithin x y ⟨hx, hy⟩), ?_⟩
    refine pass.columns.nodup_toList.imp_of_mem ?_
    intro x x' hx hx' hne i hi hi'
    obtain ⟨site, hsite, rfl⟩ := List.mem_map.mp hi
    obtain ⟨site', hsite', heq⟩ := List.mem_map.mp hi'
    exact hne (h.cell_inj (hwithin x y ⟨hx, hy⟩) (hwithin x' y ⟨hx', hy⟩) hsite hsite' heq.symm).1
  simp only [edits, List.map_flatMap, List.map_map, Function.comp_def]
  refine List.nodup_flatMap.mpr ⟨hrow, ?_⟩
  refine pass.rows.nodup_toList.imp_of_mem ?_
  intro y y' hy hy' hne i hi hi'
  simp only [List.mem_flatMap, List.mem_map] at hi hi'
  obtain ⟨x, hx, site, hsite, rfl⟩ := hi
  obtain ⟨x', hx', site', hsite', heq⟩ := hi'
  exact hne (h.cell_inj (hwithin x y ⟨hx, hy⟩) (hwithin x' y' ⟨hx', hy'⟩) hsite hsite' heq.symm).2

/-- A sample that is visited becomes what the change of its cell makes of it, any other sample of
the grid stays. -/
theorem getElem?_of_mem (h : g.Sound info) (hwithin : pass.Within g)
    (hcell : x < g.columns ∧ y < g.rows) (hsite : site ∈ g.sites x y) (data : Array UInt8) :
    (Edit.applyAll (g.edits info pass) data)[info.spotAddress site.2]? =
      if pass.Visits x y then data[info.spotAddress site.2]?.map (pass.change x y site.1)
      else data[info.spotAddress site.2]? := by
  split
  next hvisit =>
    have hedit : (⟨info.spotAddress site.2, pass.change x y site.1⟩ : Edit) ∈ g.edits info pass :=
      mem_edits.mpr ⟨x, y, hvisit, site, hsite, rfl⟩
    exact Edit.getElem?_applyAll_of_mem (h.nodup_edits hwithin) hedit data
  next hnovisit =>
    refine Edit.getElem?_applyAll_of_forall_ne ?_ data
    intro e he heq
    obtain ⟨x', y', hvisit, site', hsite', rfl⟩ := mem_edits.mp he
    obtain ⟨rfl, rfl⟩ := h.cell_inj (hwithin x' y' hvisit) hcell hsite' hsite heq
    exact hnovisit hvisit

end Sound

/-- A byte that holds no sample of the grid stays. -/
theorem getElem?_of_forall_ne {i : Nat} (hwithin : pass.Within g)
    (hi : ∀ x < g.columns, ∀ y < g.rows, ∀ site ∈ g.sites x y, info.spotAddress site.2 ≠ i)
    (data : Array UInt8) : (Edit.applyAll (g.edits info pass) data)[i]? = data[i]? := by
  refine Edit.getElem?_applyAll_of_forall_ne ?_ data
  intro e he
  obtain ⟨x, y, hvisit, site, hsite, rfl⟩ := mem_edits.mp he
  obtain ⟨hx, hy⟩ := hwithin x y hvisit
  exact hi x hx y hy site hsite

end Grid

/-! ## The grids of a frame -/

namespace VideoFormat

theorem offset_lt_pixelSize (format : VideoFormat) :
    ∀ c ∈ format.components, c.2 < format.pixelSize := by
  cases format <;> decide

theorem nodup_offsets (format : VideoFormat) : (format.components.map Prod.snd).Nodup := by
  cases format <;> decide

end VideoFormat

/-- The samples that a block shares, each with its plane and its distance from the first byte of
the block. -/
def SharedChroma.places (shared : SharedChroma) : List (Component × Nat × Nat) :=
  [(.cb, shared.cbPlane, shared.cbOffset), (.cr, shared.crPlane, shared.crOffset)]

/-- What the formats with shared chroma have in common. -/
structure SharedChroma.Sound (shared : SharedChroma) : Prop where
  columns_pos : 0 < shared.columns
  rows_pos : 0 < shared.rows
  offset_lt_step : ∀ place ∈ shared.places, place.2.2 < shared.step
  nodup : (shared.places.map Prod.snd).Nodup

theorem VideoFormat.shared_sound {format : VideoFormat} {shared : SharedChroma}
    (h : format.sharedChroma? = some shared) : shared.Sound := by
  cases format <;> simp only [sharedChroma?, Option.some.injEq, reduceCtorEq] at h <;> subst h <;>
    exact ⟨by decide, by decide, by decide, by decide⟩

namespace VideoInfo

variable {info : VideoInfo} {shared : SharedChroma} {x y : Nat}

/-- The spot of a sample of a pixel, at a distance from the first byte of the pixel. -/
def pixelSpot (info : VideoInfo) (x y offset : Nat) : Spot :=
  ⟨0, y, x * info.format.pixelSize + offset⟩

/-- The spot of a sample of a block, in a plane and at a distance from the first byte of the
block. -/
def blockSpot (shared : SharedChroma) (x y plane offset : Nat) : Spot :=
  ⟨plane, y, x * shared.step + offset⟩

/-- The grid of pixels. -/
def pixelGrid (info : VideoInfo) : Grid where
  columns := info.storedColumns
  rows := info.height
  sites x y := info.format.components.map fun (component, offset) =>
    (component, info.pixelSpot x y offset)

/-- The grid of blocks that share their chroma. -/
def blockGrid (info : VideoInfo) (shared : SharedChroma) : Grid where
  columns := groups shared.columns info.width
  rows := groups shared.rows info.height
  sites x y := shared.places.map fun (component, plane, offset) =>
    (component, blockSpot shared x y plane offset)

theorem spotAddress_pixelSpot (info : VideoInfo) (x y offset : Nat) :
    info.spotAddress (info.pixelSpot x y offset) = info.address x y offset := by
  simp only [spotAddress, pixelSpot, address, plane_zero]
  omega

theorem spotAddress_blockSpot (info : VideoInfo) (shared : SharedChroma)
    (x y plane offset : Nat) :
    info.spotAddress (blockSpot shared x y plane offset) =
      info.chromaAddress plane shared.step x y offset := by
  simp only [spotAddress, blockSpot, chromaAddress]
  omega

theorem width_le_storedColumns (info : VideoInfo) : info.width ≤ info.storedColumns := by
  unfold storedColumns groups
  split <;> omega

theorem hasSpot_pixelSpot {offset : Nat} (hx : x < info.storedColumns) (hy : y < info.height)
    (hoffset : offset < info.format.pixelSize) : info.HasSpot (info.pixelSpot x y offset) where
  plane := info.planes_pos
  row := by
    rw [pixelSpot, plane_zero]
    exact hy
  position := by
    have hcells : (x + 1) * info.format.pixelSize ≤
        info.storedColumns * info.format.pixelSize :=
      Nat.mul_le_mul_right _ hx
    have hrounded := le_upToFour (info.storedColumns * info.format.pixelSize)
    simp only [pixelSpot, plane_zero, firstPlane]
    rw [Nat.add_mul, Nat.one_mul] at hcells
    omega

theorem pixelGrid_sound (info : VideoInfo) : info.pixelGrid.Sound info where
  held x hx y hy site hsite := by
    obtain ⟨c, hc, rfl⟩ := List.mem_map.mp hsite
    exact hasSpot_pixelSpot hx hy (info.format.offset_lt_pixelSize c hc)
  apart x _ y _ x' _ y' _ site hsite site' hsite' heq := by
    obtain ⟨c, hc, rfl⟩ := List.mem_map.mp hsite
    obtain ⟨c', hc', rfl⟩ := List.mem_map.mp hsite'
    simp only [pixelSpot, Spot.mk.injEq, true_and] at heq
    exact ⟨(eq_of_mul_add_eq (info.format.offset_lt_pixelSize c hc)
      (info.format.offset_lt_pixelSize c' hc') heq.2).1, heq.1⟩
  nodup x y := by
    have hspots : ((info.pixelGrid.sites x y).map Prod.snd) =
        (info.format.components.map Prod.snd).map (info.pixelSpot x y) := by
      simp [pixelGrid, Function.comp_def]
    rw [hspots]
    refine info.format.nodup_offsets.map ?_
    intro offset offset' heq
    simpa [pixelSpot] using heq

/-- In the packed formats with shared chroma, a block takes the four bytes of its two pixels. -/
private theorem hasSpot_packed {position : Nat}
    (hstored : info.storedColumns = 2 * groups 2 info.width) (hsize : info.format.pixelSize = 2)
    (hx : x < groups 2 info.width) (hy : y < info.height) (hposition : position < 4) :
    info.HasSpot ⟨0, y, x * 4 + position⟩ where
  plane := info.planes_pos
  row := by
    rw [plane_zero]
    exact hy
  position := by
    have hrounded := le_upToFour (info.storedColumns * info.format.pixelSize)
    simp only [plane_zero, firstPlane]
    rw [hstored, hsize] at hrounded ⊢
    omega

theorem hasSpot_blockSpot (h : info.format.sharedChroma? = some shared)
    (hx : x < groups shared.columns info.width) (hy : y < groups shared.rows info.height)
    {place : Component × Nat × Nat} (hplace : place ∈ shared.places) :
    info.HasSpot (blockSpot shared x y place.2.1 place.2.2) := by
  obtain ⟨format, width, height, fpsN, fpsD, hwidth, hheight⟩ := info
  cases format <;> simp only [VideoFormat.sharedChroma?, Option.some.injEq, reduceCtorEq] at h <;>
    subst h <;> dsimp only at hx hy <;>
    simp only [SharedChroma.places, List.mem_cons, List.not_mem_nil, or_false] at hplace
  case i420 =>
    have hrounded := le_upToFour (groups 2 width)
    rcases hplace with rfl | rfl <;>
      exact ⟨by simp [planes, blockSpot], hy, by simp [plane, planes, blockSpot]; omega⟩
  case yuy2 =>
    rw [groups_one] at hy
    rcases hplace with rfl | rfl <;> exact hasSpot_packed rfl rfl hx hy (by decide)
  case uyvy =>
    rw [groups_one] at hy
    rcases hplace with rfl | rfl <;> exact hasSpot_packed rfl rfl hx hy (by decide)

theorem blockGrid_sound (h : info.format.sharedChroma? = some shared) :
    (info.blockGrid shared).Sound info where
  held x hx y hy site hsite := by
    obtain ⟨place, hplace, rfl⟩ := List.mem_map.mp hsite
    exact hasSpot_blockSpot h hx hy hplace
  apart x _ y _ x' _ y' _ site hsite site' hsite' heq := by
    obtain ⟨place, hplace, rfl⟩ := List.mem_map.mp hsite
    obtain ⟨place', hplace', rfl⟩ := List.mem_map.mp hsite'
    have hsound := VideoFormat.shared_sound h
    simp only [blockSpot, Spot.mk.injEq] at heq
    exact ⟨(eq_of_mul_add_eq (hsound.offset_lt_step place hplace)
      (hsound.offset_lt_step place' hplace') heq.2.2).1, heq.2.1⟩
  nodup x y := by
    have hspots : (((info.blockGrid shared).sites x y).map Prod.snd) =
        (shared.places.map Prod.snd).map fun place => blockSpot shared x y place.1 place.2 := by
      simp [blockGrid, Function.comp_def]
    rw [hspots]
    refine (VideoFormat.shared_sound h).nodup.map ?_
    intro place place' heq
    simp only [blockSpot, Spot.mk.injEq, true_and] at heq
    exact Prod.ext heq.1 (Nat.add_left_cancel heq.2)

/-- A sample of a pixel and a sample that a block shares stand at different spots: either in
different planes, or one at an even and one at an odd position. -/
theorem pixelSpot_ne_blockSpot (h : info.format.sharedChroma? = some shared) {x' y' : Nat}
    {c : Component × Nat} (hc : c ∈ info.format.components) {place : Component × Nat × Nat}
    (hplace : place ∈ shared.places) :
    info.pixelSpot x y c.2 ≠ blockSpot shared x' y' place.2.1 place.2.2 := by
  obtain ⟨format, width, height, fpsN, fpsD, hwidth, hheight⟩ := info
  cases format <;> simp only [VideoFormat.sharedChroma?, Option.some.injEq, reduceCtorEq] at h <;>
    subst h <;>
    simp only [SharedChroma.places, VideoFormat.components, List.mem_cons, List.not_mem_nil,
      or_false] at hplace hc <;>
    subst hc <;> rcases hplace with rfl | rfl <;>
    simp [pixelSpot, blockSpot, VideoFormat.pixelSize] <;> omega

/-- No sample of a pixel stands where a sample of a block stands. -/
theorem pixelSite_ne_blockSite (h : info.format.sharedChroma? = some shared) {x' y' : Nat}
    {site site' : Component × Spot}
    (hcell : x < info.pixelGrid.columns ∧ y < info.pixelGrid.rows)
    (hsite : site ∈ info.pixelGrid.sites x y)
    (hcell' : x' < (info.blockGrid shared).columns ∧ y' < (info.blockGrid shared).rows)
    (hsite' : site' ∈ (info.blockGrid shared).sites x' y') :
    info.spotAddress site.2 ≠ info.spotAddress site'.2 := by
  intro heq
  have hspots : site.2 = site'.2 :=
    spotAddress_inj (info.pixelGrid_sound.held x hcell.1 y hcell.2 site hsite)
      ((blockGrid_sound h).held x' hcell'.1 y' hcell'.2 site' hsite') heq
  obtain ⟨c, hc, rfl⟩ := List.mem_map.mp hsite
  obtain ⟨place, hplace, rfl⟩ := List.mem_map.mp hsite'
  exact pixelSpot_ne_blockSpot h hc hplace hspots

/-! ## The walks -/

theorem changePixel_eq (info : VideoInfo) (x y : Nat) (change : SampleChange)
    (data : Array UInt8) :
    info.changePixel x y change data = Edit.applyAll
      ((info.pixelGrid.sites x y).map fun (component, spot) =>
        ⟨info.spotAddress spot, change component⟩) data := by
  simp only [changePixel, Edit.applyAll, pixelGrid, List.map_map, List.foldl_map,
    Function.comp_apply, spotAddress_pixelSpot]

theorem mapPixels_eq (info : VideoInfo) (columns rows : Span) (change : Nat → Nat → SampleChange)
    (data : Array UInt8) :
    info.mapPixels columns rows change data =
      Edit.applyAll (info.pixelGrid.edits info ⟨columns, rows, change⟩) data := by
  simp only [mapPixels, Grid.edits, Edit.applyAll_flatMap, changePixel_eq]

theorem changeBlock_eq (info : VideoInfo) (shared : SharedChroma) (x y : Nat)
    (change : SampleChange) (data : Array UInt8) :
    info.changeBlock shared x y change data = Edit.applyAll
      (((info.blockGrid shared).sites x y).map fun (component, spot) =>
        ⟨info.spotAddress spot, change component⟩) data := by
  simp only [changeBlock, Edit.applyAll, blockGrid, SharedChroma.places, List.map_cons,
    List.map_nil, List.foldl_cons, List.foldl_nil, spotAddress_blockSpot]

theorem mapChroma_eq (info : VideoInfo) (shared : SharedChroma) (columns rows : Span)
    (change : Nat → Nat → SampleChange) (data : Array UInt8) :
    info.mapChroma shared columns rows change data =
      Edit.applyAll ((info.blockGrid shared).edits info ⟨columns, rows, change⟩) data := by
  simp only [mapChroma, Grid.edits, Edit.applyAll_flatMap, changeBlock_eq]

end VideoInfo

end Captioning
