import Captioning.Video.Info
import Mathlib.Algebra.Order.Group.Nat
import Mathlib.Data.List.Nodup

/-!
# Where bytes stand

The planes of a frame follow one another without a gap, the first one begins at address zero and
the last one ends with the frame.  A plane, a row of it and a position in the row therefore fix an
address in the frame, and two different such spots never have the same address.
-/

namespace Captioning

/-- A plane, a row of it and a position in the row. -/
structure Spot where
  plane : Nat
  row : Nat
  position : Nat
  deriving DecidableEq

namespace VideoInfo

variable {info : VideoInfo} {i j : Nat} {s t : Spot}

/-! ## Rounding -/

theorem le_upToFour (n : Nat) : n ≤ upToFour n := by
  unfold upToFour
  omega

@[simp] theorem groups_one (n : Nat) : groups 1 n = n := by
  simp [groups]

theorem lt_groups_iff {size n : Nat} (hsize : 0 < size) :
    i < groups size n ↔ i * size < n := by
  unfold groups
  rw [Nat.lt_iff_add_one_le, Nat.le_div_iff_mul_le hsize, Nat.add_mul, Nat.one_mul]
  omega

/-- Numbers below `size` stay apart when they are added to multiples of it. -/
theorem eq_of_mul_add_eq {size a b a' b' : Nat} (hb : b < size) (hb' : b' < size)
    (h : a * size + b = a' * size + b') : a = a' ∧ b = b' := by
  have hpos : 0 < size := by omega
  have hfirst := (Nat.div_mod_unique hpos).mpr
    (⟨by rw [Nat.add_comm, Nat.mul_comm], hb⟩ : b + size * a = a * size + b ∧ b < size)
  have hsecond := (Nat.div_mod_unique hpos).mpr
    (⟨by rw [Nat.add_comm, Nat.mul_comm, h], hb'⟩ : b' + size * a' = a * size + b ∧ b' < size)
  exact ⟨hfirst.1.symm.trans hsecond.1, hfirst.2.symm.trans hsecond.2⟩

/-! ## Planes -/

@[simp] theorem plane_zero (info : VideoInfo) : info.plane 0 = info.firstPlane := by
  unfold plane planes
  split <;> rfl

theorem planes_pos (info : VideoInfo) : 0 < info.planes.length := by
  unfold planes
  split <;> exact Nat.succ_pos _

/-- Each plane begins where the one before it ends. -/
theorem plane_succ_offset (h : i + 1 < info.planes.length) :
    (info.plane (i + 1)).offset = (info.plane i).stop := by
  unfold plane
  unfold planes at h ⊢
  split
  next hformat =>
    simp only [hformat, List.length_cons, List.length_nil] at h
    obtain rfl | rfl : i = 0 ∨ i = 1 := by omega
    · rfl
    · rfl
  next hformat =>
    split at h
    · contradiction
    · simp at h

/-- The last plane ends with the frame. -/
theorem size_eq_stop (h : i + 1 = info.planes.length) : info.size = (info.plane i).stop := by
  unfold size plane
  rw [List.getLast?_eq_getElem?, ← h, Nat.add_sub_cancel, List.getD_eq_getElem?_getD]
  have hlt : i < info.planes.length := by omega
  rw [List.getElem?_eq_getElem hlt]
  rfl

theorem plane_stop_le (hij : i < j) (hj : j < info.planes.length) :
    (info.plane i).stop ≤ (info.plane j).offset := by
  induction j, hij using Nat.le_induction with
  | base => exact Nat.le_of_eq (plane_succ_offset hj).symm
  | succ j hle ih =>
      calc (info.plane i).stop ≤ (info.plane j).offset := ih (by omega)
        _ ≤ (info.plane j).stop := Nat.le_add_right _ _
        _ = (info.plane (j + 1)).offset := (plane_succ_offset hj).symm

theorem plane_stop_le_size (hi : i < info.planes.length) : (info.plane i).stop ≤ info.size := by
  have hlast : info.planes.length - 1 + 1 = info.planes.length := by omega
  rw [size_eq_stop hlast]
  rcases Nat.lt_or_ge i (info.planes.length - 1) with hlt | hge
  · exact (plane_stop_le hlt (by omega)).trans (Nat.le_add_right _ _)
  · obtain rfl : i = info.planes.length - 1 := by omega
    exact Nat.le_refl _

/-! ## Spots -/

/-- Whether a spot is in the frame. -/
structure HasSpot (info : VideoInfo) (s : Spot) : Prop where
  plane : s.plane < info.planes.length
  row : s.row < (info.plane s.plane).rows
  position : s.position < (info.plane s.plane).stride

/-- The address of a spot. -/
def spotAddress (info : VideoInfo) (s : Spot) : Nat :=
  (info.plane s.plane).offset + s.row * (info.plane s.plane).stride + s.position

theorem offset_le_spotAddress (info : VideoInfo) (s : Spot) :
    (info.plane s.plane).offset ≤ info.spotAddress s := by
  unfold spotAddress
  omega

theorem spotAddress_lt_stop (h : info.HasSpot s) :
    info.spotAddress s < (info.plane s.plane).stop := by
  have hrow : (s.row + 1) * (info.plane s.plane).stride ≤
      (info.plane s.plane).stride * (info.plane s.plane).rows := by
    rw [Nat.mul_comm]
    exact Nat.mul_le_mul_left _ h.row
  have hposition := h.position
  unfold spotAddress Plane.stop
  rw [Nat.add_mul, Nat.one_mul] at hrow
  omega

theorem spotAddress_lt_size (h : info.HasSpot s) : info.spotAddress s < info.size :=
  (spotAddress_lt_stop h).trans_le (plane_stop_le_size h.plane)

/-- A spot of an earlier plane has a lower address. -/
theorem spotAddress_lt (hs : info.HasSpot s) (ht : info.HasSpot t) (hplane : s.plane < t.plane) :
    info.spotAddress s < info.spotAddress t :=
  calc info.spotAddress s < (info.plane s.plane).stop := spotAddress_lt_stop hs
    _ ≤ (info.plane t.plane).offset := plane_stop_le hplane ht.plane
    _ ≤ info.spotAddress t := offset_le_spotAddress info t

/-- Different spots have different addresses. -/
theorem spotAddress_inj (hs : info.HasSpot s) (ht : info.HasSpot t)
    (h : info.spotAddress s = info.spotAddress t) : s = t := by
  obtain ⟨plane, row, position⟩ := s
  obtain ⟨plane', row', position'⟩ := t
  rcases Nat.lt_trichotomy plane plane' with hlt | rfl | hgt
  · exact absurd h (Nat.ne_of_lt (spotAddress_lt hs ht hlt))
  · -- in one plane, the row is the quotient by the stride and the position the remainder
    simp only [spotAddress, Nat.add_assoc, Nat.add_left_cancel_iff] at h
    obtain ⟨rfl, rfl⟩ := eq_of_mul_add_eq hs.position ht.position h
    rfl
  · exact absurd h.symm (Nat.ne_of_lt (spotAddress_lt ht hs hgt))

end VideoInfo

end Captioning
