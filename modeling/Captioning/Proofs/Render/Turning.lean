import Captioning.Proofs.Render.Painting
import Mathlib.Data.Set.Function

/-!
# Turning an image

A text that runs from top to bottom is drawn upright, and then the image is turned by a quarter to
the right.  Its rows become columns, and the first one becomes the last.  The width and the height
change places, so a turned pixel is addressed by rows of another length than before.

## Strategy

`turn?` goes through the pixels and writes each where it belongs.  It fails if a byte is not there,
which does not happen in an image that has as many bytes as its size demands (`turn?_eq`).  Since a
turned image has as many as well, it can be turned again, any number of times (`iterate_turn?`).
Two turns put each pixel opposite to its place (`pixel_rotatedClockwise_rotatedClockwise`), and what
is opposite to that is the place itself.
-/

namespace Captioning.Raster

variable {r : Raster} {x y : Nat}

/-- The places of the pixels of an image, as column and row. -/
def places (r : Raster) : Set (Nat × Nat) :=
  {place | place.1 < r.width ∧ place.2 < r.height}

/-- Where the pixel at a place is found when an image of this height has been turned. -/
def turnedPlace (height : Nat) (place : Nat × Nat) : Nat × Nat :=
  (height - 1 - place.2, place.1)

theorem opposite_opposite {n k : Nat} (h : k < n) : n - 1 - (n - 1 - k) = k :=
  Nat.sub_sub_self (Nat.le_sub_one_of_lt h)

/-! ## One turn -/

theorem isWellFormed_rotatedClockwise (r : Raster) : r.rotatedClockwise.isWellFormed = true :=
  isWellFormed_ofFn ..

theorem size_rotatedClockwise (h : r.isWellFormed = true) :
    r.rotatedClockwise.pixels.size = r.pixels.size := by
  have hturned := isWellFormed_iff.mp (isWellFormed_rotatedClockwise r)
  rw [hturned, isWellFormed_iff.mp h, rotatedClockwise, ofFn, Nat.mul_comm r.height]

theorem pixel_rotatedClockwise (hx : x < r.height) (hy : y < r.width) :
    r.rotatedClockwise.pixel x y = r.pixel y (r.height - 1 - x) :=
  pixel_ofFn 0 _ hx hy

theorem mem_places_rotatedClockwise :
    (x, y) ∈ r.rotatedClockwise.places ↔ x < r.height ∧ y < r.width :=
  Iff.rfl

/-- Each place of the turned image is that of exactly one pixel. -/
theorem bijOn_turnedPlace (r : Raster) :
    Set.BijOn (turnedPlace r.height) r.places r.rotatedClockwise.places := by
  have hinverse : Set.InvOn (fun place => (place.2, r.height - 1 - place.1))
      (turnedPlace r.height) r.places r.rotatedClockwise.places := by
    constructor
    · rintro ⟨x, y⟩ ⟨-, hy⟩
      exact Prod.ext rfl (opposite_opposite hy)
    · rintro ⟨x, y⟩ hplace
      obtain ⟨hx, -⟩ := mem_places_rotatedClockwise.mp hplace
      exact Prod.ext (opposite_opposite hx) rfl
  refine hinverse.bijOn ?_ ?_
  · rintro ⟨x, y⟩ ⟨hx, hy⟩
    exact mem_places_rotatedClockwise.mpr ⟨Nat.sub_one_sub_lt hy, hx⟩
  · rintro ⟨x, y⟩ hplace
    obtain ⟨hx, hy⟩ := mem_places_rotatedClockwise.mp hplace
    exact ⟨hy, Nat.sub_one_sub_lt hx⟩

/-- A pixel that is there is there after a turn, with all of its bytes. -/
theorem read?_rotatedClockwise (h : r.isWellFormed = true) (hx : x < r.width) (hy : y < r.height) :
    r.rotatedClockwise.read? (r.height - 1 - y) x = r.read? x y := by
  have hcolumn : r.height - 1 - y < r.height := Nat.sub_one_sub_lt hy
  calc r.rotatedClockwise.read? (r.height - 1 - y) x
      = some (r.rotatedClockwise.pixel (r.height - 1 - y) x) :=
        read?_of_lt (isWellFormed_rotatedClockwise r) hcolumn hx
    _ = some (r.pixel x y) := by rw [pixel_rotatedClockwise hcolumn hx, opposite_opposite hy]
    _ = r.read? x y := (read?_of_lt h hx hy).symm

/-! ## Turn after turn -/

/-- Half a turn puts each pixel opposite to its place. -/
theorem pixel_rotatedClockwise_rotatedClockwise (hx : x < r.width) (hy : y < r.height) :
    r.rotatedClockwise.rotatedClockwise.pixel x y =
      r.pixel (r.width - 1 - x) (r.height - 1 - y) := by
  calc r.rotatedClockwise.rotatedClockwise.pixel x y
      = r.rotatedClockwise.pixel y (r.width - 1 - x) := pixel_rotatedClockwise hx hy
    _ = r.pixel (r.width - 1 - x) (r.height - 1 - y) :=
        pixel_rotatedClockwise hy (Nat.sub_one_sub_lt hx)

/-- After four turns each pixel is back, and only the baseline is gone. -/
theorem iterate_rotatedClockwise_four (h : r.isWellFormed = true) :
    rotatedClockwise^[4] r = { r with baseline := 0 } := by
  refine eq_of_pixel (isWellFormed_rotatedClockwise _) h rfl rfl rfl fun x hx y hy => ?_
  change x < r.width at hx
  change y < r.height at hy
  calc (rotatedClockwise^[4] r).pixel x y
      = r.rotatedClockwise.rotatedClockwise.pixel (r.width - 1 - x) (r.height - 1 - y) :=
        pixel_rotatedClockwise_rotatedClockwise hx hy
    _ = r.pixel (r.width - 1 - (r.width - 1 - x)) (r.height - 1 - (r.height - 1 - y)) :=
        pixel_rotatedClockwise_rotatedClockwise (Nat.sub_one_sub_lt hx) (Nat.sub_one_sub_lt hy)
    _ = r.pixel x y := by rw [opposite_opposite hx, opposite_opposite hy]

theorem isWellFormed_iterate_rotatedClockwise (h : r.isWellFormed = true) (n : Nat) :
    (rotatedClockwise^[n] r).isWellFormed = true := by
  cases n with
  | zero => exact h
  | succ n =>
      rw [Function.iterate_succ_apply']
      exact isWellFormed_rotatedClockwise _

/-- However often an image is turned, no byte is missing. -/
theorem iterate_turn? (h : r.isWellFormed = true) (n : Nat) :
    (Option.bind · turn?)^[n] (some r) = some (rotatedClockwise^[n] r) := by
  induction n with
  | zero => rfl
  | succ n ih =>
      rw [Function.iterate_succ_apply', Function.iterate_succ_apply', ih]
      exact turn?_eq (isWellFormed_iterate_rotatedClockwise h n)

/-- **Turning loses no pixel.**  An image that has as many bytes as its size demands is turned,
pixel by pixel, without a byte that is read or written outside of it.  The turned image has the
height for its width, the width for its height, and as many bytes.  The pixel in column `x` and row
`y` comes to column `height - 1 - y` and row `x`, and so each place of the turned image gets exactly
one pixel.  After four turns the image is as it was, without its baseline. -/
theorem turning_loses_no_pixel (h : r.isWellFormed = true) :
    turn? r = some r.rotatedClockwise ∧
      (r.rotatedClockwise.width = r.height ∧ r.rotatedClockwise.height = r.width ∧
        r.rotatedClockwise.pixels.size = r.pixels.size) ∧
      Set.BijOn (turnedPlace r.height) r.places r.rotatedClockwise.places ∧
      (∀ x y, (x, y) ∈ r.places → ∃ p, r.read? x y = some p ∧
        r.rotatedClockwise.read? (r.height - 1 - y) x = some p) ∧
      (Option.bind · turn?)^[4] (some r) = some { r with baseline := 0 } := by
  refine ⟨turn?_eq h, ⟨rfl, rfl, size_rotatedClockwise h⟩, bijOn_turnedPlace r, ?_, ?_⟩
  · rintro x y ⟨hx, hy⟩
    have hread := read?_of_lt h hx hy
    exact ⟨r.pixel x y, hread, (read?_rotatedClockwise h hx hy).trans hread⟩
  · rw [iterate_turn? h, iterate_rotatedClockwise_four h]

/-- An image of three by two pixels whose bytes are numbered. -/
def numbered : Raster :=
  ⟨3, 2, 1, #[1, 2, 3, 4, 5, 6, 7, 8, 9, 10, 11, 12,
    13, 14, 15, 16, 17, 18, 19, 20, 21, 22, 23, 24]⟩

/-- When three by two pixels are turned, the second row comes to the left of the first one.  Three
more turns bring it back. -/
theorem numbered_turned :
    numbered.isWellFormed = true ∧
      turn? numbered = some ⟨2, 3, 0, #[13, 14, 15, 16, 1, 2, 3, 4, 17, 18, 19, 20, 5, 6, 7, 8,
        21, 22, 23, 24, 9, 10, 11, 12]⟩ ∧
      (Option.bind · turn?)^[4] (some numbered) = some { numbered with baseline := 0 } := by
  have h : numbered.isWellFormed = true := by decide
  obtain ⟨hturned, -, -, -, hfour⟩ := turning_loses_no_pixel h
  refine ⟨h, hturned.trans (congrArg some ?_), hfour⟩
  decide

end Captioning.Raster
