import Captioning.Proofs.Compositing.Filling
import Captioning.Proofs.Compositing.Shading

/-!
# The address of a sample

A frame is a row of planes, and each of its samples stands in a row of one of them: those of a
single pixel in the first plane, those of a block where the format has them.  A sample stands at one
address, no two samples stand at the same one, and none is outside of its row.  Filling, shading and
drawing look for the samples at these addresses, and change nothing else.
-/

namespace Captioning

/-- A sample of a frame: a component of the pixel in column `x` and row `y`, or one that is shared
by the block in a column and a row of blocks. -/
inductive SampleName where
  | own (component : Component) (x y : Nat)
  | shared (component : Component) (column row : Nat)
  deriving DecidableEq

/-- The row of its plane in which a sample stands. -/
def SampleName.row : SampleName → Nat
  | own _ _ y => y
  | shared _ _ row => row

theorem VideoFormat.nodup_components (format : VideoFormat) :
    (format.components.map Prod.fst).Nodup := by
  cases format <;> decide

namespace VideoInfo

/-- The frame has a sample at an address.  In the packed formats the other pixel of the last block
counts, although the frame may not show it. -/
inductive StandsAt (info : VideoInfo) : SampleName → Nat → Prop
  | own {component : Component} {offset x y : Nat} (hx : x < info.storedColumns)
      (hy : y < info.height) (place : (component, offset) ∈ info.format.components) :
      StandsAt info (.own component x y) (info.address x y offset)
  | shared {chroma : SharedChroma} {component : Component} {plane offset column row : Nat}
      (format : info.format.sharedChroma? = some chroma)
      (hcolumn : column < groups chroma.columns info.width)
      (hrow : row < groups chroma.rows info.height)
      (place : (component, plane, offset) ∈ chroma.places) :
      StandsAt info (.shared component column row)
        (info.chromaAddress plane chroma.step column row offset)

/-- The planes follow one another without a gap, from the first byte of the frame to the last. -/
structure PlanesTile (info : VideoInfo) : Prop where
  first : (info.plane 0).offset = 0
  next : ∀ i, i + 1 < info.planes.length → (info.plane (i + 1)).offset = (info.plane i).stop
  /-- A plane ends before a later one begins. -/
  apart : ∀ i j, i < j → j < info.planes.length → (info.plane i).stop ≤ (info.plane j).offset
  last : ∀ i, i + 1 = info.planes.length → (info.plane i).stop = info.size

/-- Samples stand inside of the rows of planes, each at one address of its own. -/
structure SamplesFit (info : VideoInfo) : Prop where
  /-- A sample stands in its row, before the next row of the plane begins. -/
  inRow : ∀ sample i, info.StandsAt sample i → ∃ k < info.planes.length,
    sample.row < (info.plane k).rows ∧ ∃ position < (info.plane k).stride,
      i = (info.plane k).offset + sample.row * (info.plane k).stride + position
  below : ∀ sample i, info.StandsAt sample i → i < info.size
  /-- The address is that of no other sample, and the sample has no other address. -/
  apart : ∀ sample sample' i i', info.StandsAt sample i → info.StandsAt sample' i' →
    (sample = sample' ↔ i = i')

variable {info : VideoInfo} {sample sample' : SampleName} {i i' : Nat}

/-! ## Planes -/

theorem planesTile (info : VideoInfo) : info.PlanesTile where
  first := by rw [plane_zero, firstPlane]
  next _ hnext := plane_succ_offset hnext
  apart _ _ hlt hlast := plane_stop_le hlt hlast
  last _ hlast := (size_eq_stop hlast).symm

/-! ## Samples -/

/-- A sample stands at a spot of the frame. -/
theorem exists_spot_of_standsAt (h : info.StandsAt sample i) :
    ∃ spot, info.HasSpot spot ∧ spot.row = sample.row ∧ info.spotAddress spot = i := by
  cases h with
  | own hx hy place =>
      exact ⟨_, hasSpot_pixelSpot hx hy (info.format.offset_lt_pixelSize _ place), rfl,
        spotAddress_pixelSpot _ _ _ _⟩
  | shared format hcolumn hrow place =>
      exact ⟨_, hasSpot_blockSpot format hcolumn hrow place, rfl, spotAddress_blockSpot _ _ _ _ _ _⟩

theorem exists_row_of_standsAt (h : info.StandsAt sample i) :
    ∃ k < info.planes.length, sample.row < (info.plane k).rows ∧
      ∃ position < (info.plane k).stride,
        i = (info.plane k).offset + sample.row * (info.plane k).stride + position := by
  obtain ⟨spot, hspot, hrow, rfl⟩ := exists_spot_of_standsAt h
  exact ⟨spot.plane, hspot.plane, hrow ▸ hspot.row, spot.position, hspot.position, by
    rw [spotAddress, hrow]⟩

theorem lt_size_of_standsAt (h : info.StandsAt sample i) : i < info.size := by
  obtain ⟨spot, hspot, -, rfl⟩ := exists_spot_of_standsAt h
  exact spotAddress_lt_size hspot

/-- A sample has one address. -/
theorem standsAt_unique (h : info.StandsAt sample i) (h' : info.StandsAt sample i') : i = i' := by
  cases h with
  | @own component offset x y hx hy place =>
      cases h' with
      | @own _ offset' _ _ hx' hy' place' =>
          obtain ⟨-, rfl⟩ := Prod.mk.inj
            (List.inj_on_of_nodup_map info.format.nodup_components place place' rfl)
          rfl
  | @shared chroma component plane offset column row format hcolumn hrow place =>
      cases h' with
      | @shared chroma' _ plane' offset' _ _ format' hcolumn' hrow' place' =>
          obtain rfl := Option.some.inj (format.symm.trans format')
          have hnodup : (chroma.places.map Prod.fst).Nodup := by
            simp [SharedChroma.places]
          obtain ⟨-, hsame⟩ := Prod.mk.inj
            (List.inj_on_of_nodup_map hnodup place place' rfl)
          obtain ⟨rfl, rfl⟩ := Prod.mk.inj hsame
          rfl

/-- No two samples have the same address. -/
theorem standsAt_inj (h : info.StandsAt sample i) (h' : info.StandsAt sample' i) :
    sample = sample' := by
  generalize hi : i = j at h'
  cases h with
  | @own component offset x y hx hy place =>
      have hsite : (component, info.pixelSpot x y offset) ∈ info.pixelGrid.sites x y :=
        List.mem_map.mpr ⟨_, place, rfl⟩
      rw [← spotAddress_pixelSpot] at hi
      cases h' with
      | @own component' offset' x' y' hx' hy' place' =>
          have hsite' : (component', info.pixelSpot x' y' offset') ∈ info.pixelGrid.sites x' y' :=
            List.mem_map.mpr ⟨_, place', rfl⟩
          rw [← spotAddress_pixelSpot] at hi
          obtain ⟨rfl, rfl⟩ :=
            info.pixelGrid_sound.cell_inj ⟨hx, hy⟩ ⟨hx', hy'⟩ hsite hsite' hi
          -- in one pixel the distance from its first byte tells the components apart
          have hoffset : offset = offset' := by
            rw [spotAddress_pixelSpot, spotAddress_pixelSpot, address, address] at hi
            exact Nat.add_left_cancel hi
          obtain ⟨rfl, -⟩ := Prod.mk.inj
            (List.inj_on_of_nodup_map info.format.nodup_offsets place place' hoffset)
          rfl
      | @shared chroma component' plane offset' column row format hcolumn hrow place' =>
          rw [← spotAddress_blockSpot] at hi
          exact absurd hi (pixelSite_ne_blockSite format ⟨hx, hy⟩ hsite ⟨hcolumn, hrow⟩
            (List.mem_map.mpr ⟨_, place', rfl⟩))
  | @shared chroma component plane offset column row format hcolumn hrow place =>
      have hsite : (component, blockSpot chroma column row plane offset) ∈
          (info.blockGrid chroma).sites column row :=
        List.mem_map.mpr ⟨_, place, rfl⟩
      rw [← spotAddress_blockSpot] at hi
      cases h' with
      | @own component' offset' x' y' hx' hy' place' =>
          rw [← spotAddress_pixelSpot] at hi
          exact absurd hi.symm (pixelSite_ne_blockSite format ⟨hx', hy'⟩
            (List.mem_map.mpr ⟨_, place', rfl⟩) ⟨hcolumn, hrow⟩ hsite)
      | @shared chroma' component' plane' offset' column' row' format' hcolumn' hrow' place' =>
          obtain rfl := Option.some.inj (format.symm.trans format')
          have hsite' : (component', blockSpot chroma column' row' plane' offset') ∈
              (info.blockGrid chroma).sites column' row' :=
            List.mem_map.mpr ⟨_, place', rfl⟩
          rw [← spotAddress_blockSpot] at hi
          obtain ⟨rfl, rfl⟩ :=
            (blockGrid_sound format).cell_inj ⟨hcolumn, hrow⟩ ⟨hcolumn', hrow'⟩ hsite hsite' hi
          have hspot := spotAddress_inj (hasSpot_blockSpot format hcolumn hrow place)
            (hasSpot_blockSpot format hcolumn hrow place') hi
          simp only [blockSpot, Spot.mk.injEq, true_and, Nat.add_left_cancel_iff] at hspot
          obtain ⟨rfl, -⟩ := Prod.mk.inj (List.inj_on_of_nodup_map
            (VideoFormat.shared_sound format).nodup place place' (Prod.ext hspot.1 hspot.2))
          rfl

theorem samplesFit (info : VideoInfo) : info.SamplesFit where
  inRow _ _ h := exists_row_of_standsAt h
  below _ _ h := lt_size_of_standsAt h
  apart sample sample' i i' h h' := by
    constructor
    · rintro rfl
      exact standsAt_unique h h'
    · rintro rfl
      exact standsAt_inj h h'

end VideoInfo

/-! ## Changes -/

namespace Redrawing

variable {info : VideoInfo}

/-- What two walks make of a sample: what the change of its pixel or of its block does to it, if
that is visited. -/
def becomes (r : Redrawing info) : SampleName → UInt8 → UInt8
  | .own component x y => if r.own.Visits x y then r.own.change x y component else id
  | .shared component column row =>
      match info.format.sharedChroma? with
      | some chroma =>
          if (r.blocks chroma).Visits column row then (r.blocks chroma).change column row component
          else id
      | none => id

/-- Two walks lead from some bytes to other ones: at the address of a sample stands what they make
of it, and all other bytes stay. -/
structure Leads (r : Redrawing info) (data data' : Array UInt8) : Prop where
  size : data'.size = data.size
  sample : ∀ sample i, info.StandsAt sample i → data'[i]? = data[i]?.map (r.becomes sample)
  other : ∀ i, (∀ sample, ¬info.StandsAt sample i) → data'[i]? = data[i]?

theorem leads_applyAll (r : Redrawing info) (data : Array UInt8) :
    r.Leads data (Edit.applyAll r.edits data) where
  size := Edit.size_applyAll _ _
  sample sample i h := by
    cases h with
    | own hx hy place =>
        rw [r.getElem?_pixel hx hy place, becomes]
        split
        · rfl
        · rw [Option.map_id_fun, id_eq]
    | shared format hcolumn hrow place =>
        rw [r.getElem?_block format hcolumn hrow place]
        simp only [becomes, format]
        split
        · rfl
        · rw [Option.map_id_fun, id_eq]
  other i h := by
    refine r.getElem?_other ?_ ?_ data
    · rintro x hx y hy c hc rfl
      exact h _ (.own hx hy hc)
    · rintro chroma format column hcolumn row hrow place hplace rfl
      exact h _ (.shared format hcolumn hrow hplace)

end Redrawing

namespace VideoInfo

/-- **Samples stand apart and inside of their rows.**  A frame of any format that has pixels has a
description.  Its planes follow one another from the first byte to the last.  Each sample stands in
its row of a plane, at an address that is below the size of the frame and that no other sample has.
At these addresses filling, shading and drawing change the samples, and they change nothing else. -/
theorem samples_stand_apart (format : VideoFormat) {width height : Nat} (hwidth : 0 < width)
    (hheight : 0 < height) :
    ∃ info, make format width height = .ok info ∧
      (info.format = format ∧ info.width = width ∧ info.height = height) ∧
      info.PlanesTile ∧ info.SamplesFit ∧
      (∀ red green blue, (VideoFrame.filling info red green blue).Leads
        (Array.replicate info.size 0) (VideoFrame.filledData info red green blue)) ∧
      ∀ data composition, ∀ hsize : info.size ≤ data.size,
        let frame : VideoFrame := ⟨info, data, composition, hsize⟩
        (∀ x0 y0 x1 y1 value, (VideoFrame.shading info x0 y0 x1 y1 value).Leads data
          (frame.shadeBox x0 y0 x1 y1 value).data) ∧
        ∀ image x y, (VideoFrame.drawing info image x y).Leads data
          (frame.blend image x y).data := by
  refine ⟨⟨format, width, height, 0, 1, hwidth, hheight⟩, dif_pos ⟨hwidth, hheight⟩,
    ⟨rfl, rfl, rfl⟩, planesTile _, samplesFit _, ?_, ?_⟩
  · intro red green blue
    rw [VideoFrame.filledData_eq]
    exact Redrawing.leads_applyAll _ _
  · intro data composition hsize frame
    refine ⟨fun x0 y0 x1 y1 value => ?_, fun image x y => ?_⟩
    · rw [VideoFrame.shadeBox_eq_redrawn]
      exact Redrawing.leads_applyAll _ _
    · rw [VideoFrame.blend_eq_redrawn]
      exact Redrawing.leads_applyAll _ _

/-- In a planar frame of five by three pixels, of forty bytes, the chroma of the last block stands
in the last row of the last plane, beside one byte that is no sample. -/
theorem last_chroma_stands_apart :
    0 < 5 ∧ 0 < 3 ∧ ∃ info, make .i420 5 3 = .ok info ∧
      info.StandsAt (.shared .cr 2 1) 38 ∧ 38 < info.size ∧
        ∀ sample, info.StandsAt sample 38 → sample = .shared .cr 2 1 := by
  have hwidth : 0 < 5 := by decide
  have hheight : 0 < 3 := by decide
  obtain ⟨info, hinfo, -, -, hfit, -⟩ := samples_stand_apart .i420 hwidth hheight
  have hstands : info.StandsAt (.shared .cr 2 1) 38 := by
    obtain rfl : ⟨.i420, 5, 3, 0, 1, hwidth, hheight⟩ = info :=
      Except.ok.inj (hinfo.symm.trans (dif_pos ⟨hwidth, hheight⟩)).symm
    let chroma : SharedChroma := ⟨2, 2, 1, 2, 1, 0, 0⟩
    have hcolumn : 2 < groups chroma.columns 5 := by decide
    have hrow : 1 < groups chroma.rows 3 := by decide
    have hplace : (Component.cr, 2, 0) ∈ chroma.places := by decide
    have haddress : ∀ hwidth hheight, VideoInfo.chromaAddress ⟨.i420, 5, 3, 0, 1, hwidth, hheight⟩
        2 chroma.step 2 1 0 = 38 := by
      decide
    exact haddress hwidth hheight ▸ StandsAt.shared rfl hcolumn hrow hplace
  refine ⟨hwidth, hheight, info, hinfo, hstands, hfit.below _ _ hstands, fun sample h => ?_⟩
  exact (hfit.apart _ _ _ _ h hstands).mpr rfl

end VideoInfo

end Captioning
