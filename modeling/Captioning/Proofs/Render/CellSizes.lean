import Captioning.Render.Metrics

/-!
# The size of cells

The size of a cell is that of the font, scaled and rounded as a double and then read as a whole
number of pixels.  However small, great or meaningless the doubles become on the way, what is read
in the end is at least one, so no cell is empty.
-/

namespace Captioning

open Float.Model (UnpackedFloat Format)
open Float.Model.UnpackedFloat (Sign unpackExponent unpackMantissa unpackSign)

/-! ## The parts of a double -/

/-- The bits of a double. -/
def bits (x : Float) : BitVec Format.binary64.numBits :=
  x.toBits.toBitVec

theorem toNat_unpackExponent (x : Float) :
    (unpackExponent (bits x)).toNat =
      x.toBits.toNat / Dyadic.hiddenBit % 2048 := by
  have hexponent : (unpackExponent (bits x)).toNat = ((bits x).extractLsb 62 52).toNat := rfl
  rw [hexponent]
  simp [bits, Dyadic.hiddenBit, Nat.shiftRight_eq_div_pow]

theorem toNat_unpackMantissa (x : Float) :
    (unpackMantissa (bits x)).toNat =
      x.toBits.toNat % Dyadic.hiddenBit := by
  have hmantissa : (unpackMantissa (bits x)).toNat = ((bits x).extractLsb 51 0).toNat := rfl
  rw [hmantissa]
  simp [bits, Dyadic.hiddenBit]

/-- The highest bit of a double is its sign. -/
theorem toNat_unpackSign (x : Float) :
    (unpackSign (bits x)).toNat =
      x.toBits.toNat / signedLongCount := by
  have hlt := x.toBits.toNat_lt
  have hsign : (unpackSign (bits x)).toNat = ((bits x).extractLsb 63 63).toNat := rfl
  rw [hsign]
  simp [bits, signedLongCount, Nat.shiftRight_eq_div_pow]
  omega

namespace Dyadic

/-- A sign belongs to a negative number. -/
def isNegative : Sign → Bool
  | .negative => true
  | .positive => false

/-- The value of a double in its parts; infinities and not-a-number have none. -/
def ofUnpacked? : UnpackedFloat → Option Dyadic
  | .finite sign mantissa exponent _ => some ⟨isNegative sign, mantissa, exponent⟩
  | .zero sign => some ⟨isNegative sign, 0, -1074⟩
  | _ => none

theorem isNegative_unpackSign (x : Float) :
    isNegative (Sign.ofBitVec (unpackSign (bits x))) =
      decide (signedLongCount ≤ x.toBits.toNat) := by
  have hsign := toNat_unpackSign x
  have hlt := x.toBits.toNat_lt
  simp only [signedLongCount] at hsign ⊢
  rw [Sign.ofBitVec]
  split
  next h =>
    rw [h] at hsign
    simp only [isNegative, BitVec.toNat_ofNat, Nat.zero_mod] at hsign ⊢
    exact (decide_eq_false (by omega)).symm
  next h =>
    have hone : (unpackSign (bits x)).toNat ≠ 0 :=
      fun hzero => h (BitVec.eq_of_toNat_eq hzero)
    exact (decide_eq_true (by omega)).symm

/-- The value that is read from the bits of a double is that of its parts. -/
theorem ofFloat?_eq (x : Float) : ofFloat? x = ofUnpacked? x.toModel.unpack := by
  have hexponent := toNat_unpackExponent x
  have hmantissa := toNat_unpackMantissa x
  have hlast : (unpackExponent (bits x) = -1#_) ↔
      x.toBits.toNat / hiddenBit % 2048 = 2047 := by
    rw [← hexponent, ← BitVec.toNat_inj]
    rfl
  have hfirst : (unpackExponent (bits x) = 0#_) ↔
      x.toBits.toNat / hiddenBit % 2048 = 0 := by
    rw [← hexponent, ← BitVec.toNat_inj]
    rfl
  have hzero : (unpackMantissa (bits x) = 0#_) ↔
      x.toBits.toNat % hiddenBit = 0 := by
    rw [← hmantissa, ← BitVec.toNat_inj]
    rfl
  have hunpack : x.toModel.unpack = UnpackedFloat.unpack Format.binary64 (bits x) := rfl
  simp only [hunpack, ofFloat?, ← isNegative_unpackSign]
  delta UnpackedFloat.unpack
  dsimp only
  by_cases hspecial : x.toBits.toNat / hiddenBit % 2048 = 2047
  · rw [if_pos (hlast.mpr hspecial), if_pos hspecial]
    split <;> rfl
  rw [if_neg (mt hlast.mp hspecial), if_neg hspecial]
  by_cases hsmall : x.toBits.toNat / hiddenBit % 2048 = 0
  · rw [if_pos (hfirst.mpr hsmall), if_pos hsmall]
    by_cases hnothing : unpackMantissa (bits x) = 0#_
    · rw [dif_pos hnothing, hzero.mp hnothing]
      rfl
    · rw [dif_neg hnothing]
      dsimp only [ofUnpacked?]
      rw [hmantissa, hexponent, hsmall]
      rfl
  · rw [if_neg (mt hfirst.mp hsmall), if_neg hsmall]
    dsimp only [ofUnpacked?]
    rw [hexponent]
    congr 2
    -- the bit that is not stored stands before the others
    rw [BitVec.toNat_append, ← Nat.shiftLeft_add_eq_or_of_lt (BitVec.isLt _), hmantissa,
      Nat.add_comm]
    rfl

/-- Only the smallest doubles have a short mantissa. -/
theorem hiddenBit_le_mantissa {x : Float} {d : Dyadic} (h : ofFloat? x = some d)
    (hexponent : d.exponent ≠ -1074) : hiddenBit ≤ d.mantissa := by
  unfold ofFloat? at h
  dsimp only at h
  split at h
  · cases h
  · split at h
    · obtain rfl := Option.some.inj h
      exact absurd rfl hexponent
    · obtain rfl := Option.some.inj h
      exact Nat.le_add_left _ _

end Dyadic

/-! ## Doubles that are at least one -/

theorem float_le_iff (x y : Float) :
    x ≤ y ↔ UnpackedFloat.le x.toModel.unpack y.toModel.unpack = true :=
  decide_eq_true_iff

theorem float_lt_iff (x y : Float) :
    x < y ↔ UnpackedFloat.lt x.toModel.unpack y.toModel.unpack = true :=
  decide_eq_true_iff

theorem unpack_one : (1.0 : Float).toModel.unpack =
    .finite .positive Dyadic.hiddenBit (-52) (by decide) :=
  rfl

/-- A double that is at least one is infinite, or its value is at least one. -/
theorem ofFloat?_of_one_le {x : Float} (h : 1.0 ≤ x) :
    x.toModel.unpack = .infinity .positive ∨
      ∃ mantissa exponent, Dyadic.ofFloat? x = some ⟨false, mantissa, exponent⟩ ∧
        Dyadic.hiddenBit ≤ mantissa ∧ -52 ≤ exponent := by
  rw [float_le_iff, unpack_one] at h
  have hvalue := Dyadic.ofFloat?_eq x
  cases hx : x.toModel.unpack with
  | infinity sign =>
      rw [hx] at h
      cases sign with
      | positive => exact .inl rfl
      | negative => cases h
  | notANumber =>
      rw [hx] at h
      cases h
  | zero sign =>
      rw [hx] at h
      cases h
  | finite sign mantissa exponent hmantissa =>
      rw [hx] at h hvalue
      cases sign with
      | negative => cases h
      | positive =>
          have hexponent : -52 ≤ exponent := by
            dsimp only [UnpackedFloat.le, UnpackedFloat.compare] at h
            rw [Option.any_some, Ordering.isLE_then_iff_and, Int.isLE_compare] at h
            exact h.1
          refine .inr ⟨mantissa, exponent, hvalue, ?_, hexponent⟩
          exact Dyadic.hiddenBit_le_mantissa hvalue (by dsimp only; omega)

theorem Dyadic.one_le_truncated {d : Dyadic} (hmantissa : hiddenBit ≤ d.mantissa)
    (hexponent : -52 ≤ d.exponent) : 1 ≤ d.truncated := by
  have hpos : 0 < d.mantissa := Nat.lt_of_lt_of_le (by decide) hmantissa
  unfold truncated
  split
  · exact Nat.mul_pos hpos (Nat.two_pow_pos _)
  · have hdivisor : 0 < powerOfTwo (-d.exponent).toNat := Nat.two_pow_pos _
    rw [Nat.le_div_iff_mul_le hdivisor, Nat.one_mul]
    calc powerOfTwo (-d.exponent).toNat ≤ powerOfTwo 52 :=
          Nat.pow_le_pow_right Nat.two_pos (by omega)
      _ = hiddenBit := by decide
      _ ≤ d.mantissa := hmantissa

/-- What is read from a double that is at least one is at least one. -/
theorem one_le_truncateNat {last : Nat} (hlast : 1 ≤ last) {x : Float} (h : 1.0 ≤ x) :
    1 ≤ truncateNat last x := by
  rcases ofFloat?_of_one_le h with hx | ⟨mantissa, exponent, hvalue, hmantissa, hexponent⟩
  · have hnone : Dyadic.ofFloat? x = none := by rw [Dyadic.ofFloat?_eq, hx]; rfl
    have hpos : x > 0 := by
      rw [gt_iff_lt, float_lt_iff, hx]
      rfl
    simpa only [truncateNat, hnone, if_pos hpos] using hlast
  · simp only [truncateNat, hvalue, Bool.false_eq_true, if_false]
    exact Nat.le_min.mpr ⟨Dyadic.one_le_truncated hmantissa hexponent, hlast⟩

/-! ## Cells -/

namespace Metrics

theorem one_le_pixels (x : Float) : 1 ≤ pixels x := by
  have hlast : 1 ≤ wordCount - 1 := by decide
  unfold pixels atLeastOne
  split
  next h => exact one_le_truncateNat hlast h
  next => exact one_le_truncateNat hlast (by decide)

/-- Cells have pixels. -/
theorem ofStyle_cells (style : TextStyle) :
    1 ≤ (ofStyle style).cellWidth ∧ 1 ≤ (ofStyle style).lineHeight :=
  ⟨one_le_pixels _, one_le_pixels _⟩

end Metrics

end Captioning
