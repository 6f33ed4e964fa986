import Captioning.Decimal.Shortest
import Mathlib.Algebra.Order.Floor.Semifield
import Mathlib.Data.Rat.Floor
import Mathlib.Tactic.FieldSimp
import Mathlib.Tactic.Linarith
import Mathlib.Tactic.NormNum
import Mathlib.Tactic.Positivity

/-!
# The numbers that fractions denote

The search for the shortest decimal of a double computes with fractions of natural numbers.  Read
as rational numbers, they scale, compare and round down as such.
-/

namespace Captioning.Decimal.Fraction

variable {f : Fraction}

/-- The rational number that a fraction denotes. -/
def val (f : Fraction) : ℚ :=
  f.num / f.den

theorem den_ofBinary_pos (n : ℕ) (e : ℤ) : 0 < (ofBinary n e).den := by
  unfold ofBinary
  split
  · exact Nat.one_pos
  · exact Nat.pow_pos (by omega)

theorem den_scaleTen_pos (h : 0 < f.den) (e : ℤ) : 0 < (f.scaleTen e).den := by
  unfold scaleTen
  split
  · exact h
  · exact Nat.mul_pos h (Nat.pow_pos (by omega))

theorem cast_powerOfTwo (n : ℕ) : (powerOfTwo n : ℚ) = 2 ^ n :=
  Nat.cast_pow 2 n

theorem cast_powerOfTen (n : ℕ) : (powerOfTen n : ℚ) = 10 ^ n :=
  Nat.cast_pow 10 n

theorem val_ofBinary (n : ℕ) (e : ℤ) : (ofBinary n e).val = n * 2 ^ e := by
  unfold ofBinary val
  split
  next h =>
    obtain ⟨k, rfl⟩ := Int.eq_ofNat_of_zero_le h
    rw [Int.toNat_natCast, Nat.cast_mul, cast_powerOfTwo, Nat.cast_one, div_one, zpow_natCast]
  next h =>
    obtain ⟨k, hk⟩ := Int.eq_ofNat_of_zero_le (by omega : 0 ≤ -e)
    obtain rfl : e = -(k : ℤ) := by omega
    rw [neg_neg, Int.toNat_natCast, cast_powerOfTwo, zpow_neg, zpow_natCast, div_eq_mul_inv]

theorem val_scaleTen (f : Fraction) (e : ℤ) : (f.scaleTen e).val = f.val * 10 ^ e := by
  unfold scaleTen val
  split
  next h =>
    obtain ⟨k, rfl⟩ := Int.eq_ofNat_of_zero_le h
    rw [Int.toNat_natCast, Nat.cast_mul, cast_powerOfTen, zpow_natCast, div_mul_eq_mul_div]
  next h =>
    obtain ⟨k, hk⟩ := Int.eq_ofNat_of_zero_le (by omega : 0 ≤ -e)
    obtain rfl : e = -(k : ℤ) := by omega
    rw [neg_neg, Int.toNat_natCast, Nat.cast_mul, cast_powerOfTen, zpow_neg, zpow_natCast,
      div_mul_eq_div_div, div_eq_mul_inv]

/-- The integer part is that of the rational number. -/
theorem floor_eq (f : Fraction) : f.floor = ⌊f.val⌋₊ :=
  (Nat.floor_div_eq_div f.num f.den).symm

theorem compareNat_eq_lt_iff (h : 0 < f.den) (n : ℕ) : f.compareNat n = .lt ↔ f.val < n := by
  have hden : (0 : ℚ) < f.den := Nat.cast_pos.mpr h
  rw [compareNat, Nat.compare_eq_lt, val, div_lt_iff₀ hden, ← Nat.cast_mul, Nat.cast_lt]

theorem compareNat_eq_gt_iff (h : 0 < f.den) (n : ℕ) : f.compareNat n = .gt ↔ n < f.val := by
  have hden : (0 : ℚ) < f.den := Nat.cast_pos.mpr h
  rw [compareNat, Nat.compare_eq_gt, val, lt_div_iff₀ hden, ← Nat.cast_mul, Nat.cast_lt]

end Captioning.Decimal.Fraction
