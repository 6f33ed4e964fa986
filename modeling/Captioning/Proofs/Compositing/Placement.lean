import Captioning.Compositing.Outcome
import Captioning.Proofs.Compositing.Coverage
import Captioning.Proofs.Compositing.Shading

/-!
# Where an image is placed

Whatever the alignment asks for, the base of each coordinate is kept where the image is inside the
frame, as far as it fits; only the deltas can move it further.  Without deltas an image that fits
is therefore drawn as a whole.  The box around it may reach out of the frame, and even past the
greatest coordinate, but there a box is cut off anyway, so no part of it is lost that would have
been seen.
-/

namespace Captioning

/-! ## Coordinates -/

theorem saturate_of_mem {n : Int} (hlow : -(signedWordCount : Int) ≤ n)
    (hhigh : n < signedWordCount) : saturate n = n := by
  unfold saturate
  omega

theorem keepInside_nonneg (base image frame : Int) : 0 ≤ keepInside base image frame := by
  unfold keepInside
  omega

theorem keepInside_le (base image frame : Int) :
    keepInside base image frame ≤ max 0 (frame - image) := by
  unfold keepInside
  omega

namespace Span

/-- What is past the greatest coordinate is past the frame, too. -/
theorem clamped_saturate {limit : Nat} (hlimit : limit < signedWordCount) (first last : Int) :
    Span.clamped (saturate first) (saturate last) limit = Span.clamped first last limit := by
  have hend : ∀ n : Int, min (max (saturate n) 0) limit = min (max n 0) (limit : Int) := by
    intro n
    unfold saturate
    omega
  unfold clamped
  rw [hend, hend]

/-- An image that begins and ends in the frame is visible as a whole. -/
theorem visible_of_inside {left image frame : Nat} (hinside : left + image ≤ frame) :
    Span.visible left image frame = ⟨left, image⟩ := by
  simp only [visible, clamped, between, Span.mk.injEq]
  omega

end Span

namespace Layout

/-- A place is a base, which does not depend on the deltas, moved by them. -/
theorem place_eq (l : Layout) (imageWidth imageHeight : Nat) (baseline : Int)
    (frameWidth frameHeight : Nat) (deltax deltay : Int) :
    ({ l with deltax := deltax, deltay := deltay } : Layout).place imageWidth imageHeight baseline
        frameWidth frameHeight =
      (saturate (keepInside (l.left imageWidth frameWidth) imageWidth frameWidth + deltax),
        saturate (keepInside (l.top imageHeight baseline frameHeight) imageHeight frameHeight
          + deltay)) := rfl

/-- Without deltas an image that fits is placed inside the frame. -/
theorem exists_place_inside {l : Layout} {imageWidth imageHeight frameWidth frameHeight : Nat}
    (hdeltax : l.deltax = 0) (hdeltay : l.deltay = 0) (hwidth : frameWidth < signedWordCount)
    (hheight : frameHeight < signedWordCount) (hfitsWidth : imageWidth ≤ frameWidth)
    (hfitsHeight : imageHeight ≤ frameHeight) (baseline : Int) :
    ∃ left top : Nat, left + imageWidth ≤ frameWidth ∧ top + imageHeight ≤ frameHeight ∧
      l.place imageWidth imageHeight baseline frameWidth frameHeight = (↑left, ↑top) := by
  rw [place, hdeltax, hdeltay, Int.add_zero, Int.add_zero]
  generalize l.left imageWidth frameWidth = x
  generalize l.top imageHeight baseline frameHeight = y
  have hx := keepInside_nonneg x imageWidth frameWidth
  have hx' := keepInside_le x imageWidth frameWidth
  have hy := keepInside_nonneg y imageHeight frameHeight
  have hy' := keepInside_le y imageHeight frameHeight
  refine ⟨(keepInside x imageWidth frameWidth).toNat, (keepInside y imageHeight frameHeight).toNat,
    by omega, by omega, ?_⟩
  rw [saturate_of_mem (by omega) (by omega), saturate_of_mem (by omega) (by omega),
    Int.toNat_of_nonneg hx, Int.toNat_of_nonneg hy]

end Layout

namespace VideoFrame

/-! ## The box -/

/-- The box around an image is the image with its margin, cut to the frame. -/
theorem shadeAround_eq (frame : VideoFrame) (hwidth : frame.info.width < signedWordCount)
    (hheight : frame.info.height < signedWordCount) (c : Composition) (value : UInt8) :
    frame.shadeAround c value =
      frame.shadeBox (c.x - boxMargin) (c.y - boxMargin)
        (c.x + c.image.raster.width + boxMargin) (c.y + c.image.raster.height + boxMargin)
        value := by
  simp only [shadeAround, shadeBox, Span.clamped_saturate hwidth, Span.clamped_saturate hheight]

/-! ## Whole images -/

/-- Drawing an image leaves out none of its pixels. -/
structure DrawnWhole (frame : VideoFrame) (image : Raster) (x y : Int) : Prop where
  /-- The walk over the frame has as many columns and rows as the image. -/
  columns : Span.visible x image.width frame.info.width = ⟨x.toNat, image.width⟩
  rows : Span.visible y image.height frame.info.height = ⟨y.toNat, image.height⟩
  falls : ∀ i < image.width, ∀ j < image.height,
    ∃ fx < frame.info.width, ∃ fy < frame.info.height, FallsOn x y i j fx fy
  distinct : ∀ i j i' j' fx fy, FallsOn x y i j fx fy → FallsOn x y i' j' fx fy → i = i' ∧ j = j'
  drawn : ∀ i < image.width, ∀ j < image.height, ∀ fx fy, FallsOn x y i j fx fy →
    ∀ c ∈ frame.info.format.components,
      (frame.blend image x y).sample fx fy c.2 =
        (image.pixel i j).change c.1 (frame.sample fx fy c.2)

theorem drawnWhole_of_inside {frame : VideoFrame} {image : Raster} {left top : Nat}
    (hcolumns : left + image.width ≤ frame.info.width)
    (hrows : top + image.height ≤ frame.info.height) :
    DrawnWhole frame image (left : Int) (top : Int) where
  columns := Span.visible_of_inside hcolumns
  rows := Span.visible_of_inside hrows
  falls i hi j hj :=
    ⟨left + i, by omega, top + j, by omega, Int.natCast_add left i, Int.natCast_add top j⟩
  distinct i j i' j' fx fy hfalls hfalls' := by
    have hcolumn := hfalls.1.symm.trans hfalls'.1
    have hrow := hfalls.2.symm.trans hfalls'.2
    omega
  drawn i hi j hj fx fy hfalls c hc := by
    have hcolumn := hfalls.1
    have hrow := hfalls.2
    rw [sample_blend (by omega) (by omega) hc, Raster.cover_of_fallsOn hi hj hfalls]

end VideoFrame

namespace Config

/-- **Text that fits is never clipped.**  Each coordinate of a place is a base, between zero and
what the image leaves of the frame, moved by a delta and saturated; the base does not depend on the
deltas.  So without deltas an image that fits is drawn as a whole, and the pixels that are darkened
for it are those of the image and of a margin around it, as far as they belong to the frame. -/
theorem placed_text_fits (c : Config) :
    (∀ (imageWidth imageHeight : Nat) (baseline : Int) (frameWidth frameHeight : Nat),
      ∃ left top : Int,
      (0 ≤ left ∧ left ≤ max 0 ((frameWidth : Int) - imageWidth)) ∧
      (0 ≤ top ∧ top ≤ max 0 ((frameHeight : Int) - imageHeight)) ∧
      ∀ deltax deltay : Int32,
        (layout { c with deltax := deltax, deltay := deltay }).place imageWidth imageHeight
            baseline frameWidth frameHeight =
          (saturate (left + deltax.toInt), saturate (top + deltay.toInt))) ∧
    (c.deltax = 0 → c.deltay = 0 → ∀ (frame : VideoFrame) (image : RenderedImage) baseline,
      frame.info.width < signedWordCount → frame.info.height < signedWordCount →
      image.raster.width ≤ frame.info.width → image.raster.height ≤ frame.info.height →
      let (x, y) := c.layout.place image.raster.width image.raster.height baseline
        frame.info.width frame.info.height
      frame.DrawnWhole image.raster x y ∧
      (image.raster.isEmpty = false → ∀ value, ∃ background,
        frame.Darkened background value (InBox (x - 6) (y - 6) (x + image.raster.width + 6)
          (y + image.raster.height + 6)) ∧
        background.DrawnWhole image.raster x y ∧
        frame.composite ⟨image, x, y⟩ false (some value) =
          (background.blend image.raster x y, .blended))) := by
  constructor
  · intro imageWidth imageHeight baseline frameWidth frameHeight
    refine ⟨keepInside (c.layout.left imageWidth frameWidth) imageWidth frameWidth,
      keepInside (c.layout.top imageHeight baseline frameHeight) imageHeight frameHeight,
      ⟨keepInside_nonneg _ _ _, keepInside_le _ _ _⟩,
      ⟨keepInside_nonneg _ _ _, keepInside_le _ _ _⟩, ?_⟩
    intro deltax deltay
    exact Layout.place_eq c.layout imageWidth imageHeight baseline frameWidth frameHeight
      deltax.toInt deltay.toInt
  · intro hdeltax hdeltay frame image baseline hwidth hheight hfitsWidth hfitsHeight
    have hlayoutx : c.layout.deltax = 0 := congrArg Int32.toInt hdeltax
    have hlayouty : c.layout.deltay = 0 := congrArg Int32.toInt hdeltay
    obtain ⟨left, top, hcolumns, hrows, hplace⟩ := Layout.exists_place_inside hlayoutx hlayouty
      hwidth hheight hfitsWidth hfitsHeight baseline
    rw [hplace]
    refine ⟨VideoFrame.drawnWhole_of_inside hcolumns hrows, ?_⟩
    intro hnonempty value
    have hbox := VideoFrame.shadeAround_eq frame hwidth hheight ⟨image, left, top⟩ value
    refine ⟨_, VideoFrame.darkened_shadeBox frame (left - 6) (top - 6)
      (left + image.raster.width + 6) (top + image.raster.height + 6) value,
      VideoFrame.drawnWhole_of_inside ?_ ?_, ?_⟩
    · rw [VideoFrame.info_shadeBox]
      exact hcolumns
    · rw [VideoFrame.info_shadeBox]
      exact hrows
    · simp only [VideoFrame.composite, VideoFrame.drawn, hnonempty, hbox, boxMargin,
        Bool.false_eq_true, if_false]

/-- An image of two pixels with the first settings: it stands in the middle of the first row, since
the padding below the baseline is greater than the frame. -/
theorem placed_text_fits_centered :
    let frame := VideoFrame.black ⟨.gray8, 8, 8, 0, 1, by decide, by decide⟩
    let image : RenderedImage :=
      ⟨⟨2, 1, 0, #[0, 0, 0, 255, 0, 0, 0, 255]⟩, (initial.textStyle 8 8 true).sourceKey [], 0⟩
    initial.deltax = 0 ∧ initial.deltay = 0 ∧ frame.info.width < signedWordCount ∧
      frame.info.height < signedWordCount ∧ image.raster.width ≤ frame.info.width ∧
      image.raster.height ≤ frame.info.height ∧
      initial.layout.place 2 1 0 8 8 = (3, 0) ∧ frame.DrawnWhole image.raster 3 0 := by
  intro frame image
  have hplace : initial.layout.place 2 1 0 8 8 = (3, 0) := by decide
  have hwhole := (placed_text_fits initial).2 rfl rfl frame image 0 (by decide) (by decide)
    (by decide) (by decide)
  rw [show image.raster.width = 2 from rfl, show image.raster.height = 1 from rfl,
    show frame.info.width = 8 from rfl, show frame.info.height = 8 from rfl, hplace] at hwhole
  exact ⟨rfl, rfl, by decide, by decide, by decide, by decide, hplace, hwhole.1⟩

end Config

end Captioning
