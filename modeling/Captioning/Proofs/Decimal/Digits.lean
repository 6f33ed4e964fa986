import Captioning.Proofs.Decimal.Fractions
import Captioning.Proofs.Decimal.Numerals
import Mathlib.Algebra.Order.Field.Power
import Mathlib.Data.List.DropRight
import Mathlib.Tactic.GCongr

/-!
# Seventeen digits suffice

Every finite double but zero has a shortest decimal with at most seventeen digits, the first of
which is no zero.

## Strategy

The grid of decimals with seventeen digits has its points closer to each other than the ends of
the interval of reals that round to a double: a mantissa has less than fifty-three bits, and
`2 ^ 53 < 10 ^ 16`.  The value lies between two points of the grid next to each other and inside
the interval, so one of the two points lies inside it too.  At a power of two the interval is a
quarter shorter, but then the mantissa is `2 ^ 52`.
-/

namespace Captioning

/-- A number within the range of finite doubles: less than fifty-three bits, and an exponent
within bounds. -/
structure Dyadic.IsFinite (x : Dyadic) : Prop where
  mantissa_lt : x.mantissa < 2 ^ 53
  le_exponent : -1074 ≤ x.exponent
  exponent_le : x.exponent ≤ 971

theorem Dyadic.isFinite_of_ofFloat? {x : Float} {d : Dyadic} (h : Dyadic.ofFloat? x = some d) :
    d.IsFinite := by
  have hfraction : x.toBits.toNat % hiddenBit < hiddenBit := Nat.mod_lt _ (by decide)
  have hfield : x.toBits.toNat / hiddenBit % 2048 < 2048 := Nat.mod_lt _ (by decide)
  have hbits : hiddenBit + hiddenBit = 2 ^ 53 := by decide
  simp only [ofFloat?] at h
  by_cases hinfinite : x.toBits.toNat / hiddenBit % 2048 = 2047
  · rw [if_pos hinfinite] at h
    cases h
  rw [if_neg hinfinite] at h
  by_cases hsmall : x.toBits.toNat / hiddenBit % 2048 = 0
  · rw [if_pos hsmall] at h
    obtain rfl := Option.some.inj h
    exact ⟨by dsimp only; omega, le_refl _, by dsimp only; omega⟩
  · rw [if_neg hsmall] at h
    obtain rfl := Option.some.inj h
    exact ⟨by dsimp only; omega, by dsimp only; omega, by dsimp only; omega⟩

namespace Decimal

variable {m n : ℕ} {q e : ℤ} {cs : List Char}

/-! ## The place of the point -/

theorem floor_scaleTen_eq_zero_iff (value : Fraction) (i : ℕ) :
    (value.scaleTen (330 - (i : ℤ))).floor = 0 ↔ value.val < (10 : ℚ) ^ ((i : ℤ) - 330) := by
  have hscale : value.val * (10 : ℚ) ^ (330 - (i : ℤ)) < 1 ↔
      value.val < (10 : ℚ) ^ ((i : ℤ) - 330) := by
    rw [← lt_div_iff₀ (by positivity), one_div, ← zpow_neg, neg_sub]
  rw [Fraction.floor_eq, Nat.floor_eq_zero, Fraction.val_scaleTen, hscale]

/-- A search that reaches far enough finds the least power of ten above a number. -/
theorem pointAmong_spec {value : Fraction} {count : ℕ}
    (hlow : (10 : ℚ) ^ (-330 : ℤ) ≤ value.val)
    (hhigh : value.val < (10 : ℚ) ^ ((count : ℤ) - 330)) :
    (10 : ℚ) ^ (pointAmong (count + 1) value - 1) ≤ value.val ∧
      value.val < (10 : ℚ) ^ pointAmong (count + 1) value := by
  unfold pointAmong
  split
  next i hfind =>
    obtain ⟨hi, -, hbefore⟩ := List.find?_range_eq_some.mp hfind
    rw [decide_eq_true_eq, floor_scaleTen_eq_zero_iff] at hi
    refine ⟨?_, hi⟩
    rcases i with - | i
    · rw [Nat.cast_zero, zero_sub] at hi
      exact absurd hi (not_lt.mpr hlow)
    · have hbelow := hbefore i (Nat.lt_succ_self i)
      rw [Bool.not_eq_true', decide_eq_false_iff_not, floor_scaleTen_eq_zero_iff, not_lt] at hbelow
      have hpower : ((i + 1 : ℕ) : ℤ) - 330 - 1 = (i : ℤ) - 330 := by omega
      rwa [hpower]
  next hnone =>
    have hlast := List.find?_range_eq_none.mp hnone count (Nat.lt_succ_self count)
    rw [Bool.not_eq_true', decide_eq_false_iff_not, floor_scaleTen_eq_zero_iff] at hlast
    exact absurd hhigh hlast

/-- Doubles that are not zero lie within the range that is searched for their point. -/
theorem val_ofBinary_bounds (hm : 0 < m) (hlt : m < 2 ^ 53) (hlow : -1074 ≤ q) (hhigh : q ≤ 971) :
    (10 : ℚ) ^ (-330 : ℤ) ≤ (Fraction.ofBinary m q).val ∧
      (Fraction.ofBinary m q).val < (10 : ℚ) ^ (319 : ℤ) := by
  rw [Fraction.val_ofBinary]
  constructor
  · have hpower : (2 : ℚ) ^ 1074 ≤ 10 ^ 330 := by
      calc (2 : ℚ) ^ 1074 = (2 ^ 179) ^ 6 := pow_mul 2 179 6
        _ ≤ (10 ^ 55) ^ 6 := by gcongr; norm_num
        _ = 10 ^ 330 := (pow_mul 10 55 6).symm
    have hone : (1 : ℚ) ≤ m := by exact_mod_cast hm
    calc (10 : ℚ) ^ (-330 : ℤ) = (10 ^ 330)⁻¹ := by rw [zpow_neg, zpow_ofNat]
      _ ≤ (2 ^ 1074)⁻¹ := inv_anti₀ (pow_pos two_pos _) hpower
      _ = 1 * 2 ^ (-1074 : ℤ) := by rw [one_mul, zpow_neg, zpow_ofNat]
      _ ≤ m * 2 ^ q :=
        mul_le_mul hone (zpow_le_zpow_right₀ one_le_two hlow) (zpow_nonneg two_pos.le _)
          (Nat.cast_nonneg m)
  · have hpower : (2 : ℚ) ^ 1024 ≤ 10 ^ 312 := by
      calc (2 : ℚ) ^ 1024 = (2 ^ 256) ^ 4 := pow_mul 2 256 4
        _ ≤ (10 ^ 78) ^ 4 := by gcongr; norm_num
        _ = 10 ^ 312 := (pow_mul 10 78 4).symm
    have hsum : (53 : ℤ) + 971 = 1024 := by norm_num
    have hmantissa : (m : ℚ) < 2 ^ (53 : ℤ) := by exact_mod_cast hlt
    calc (m : ℚ) * 2 ^ q ≤ m * 2 ^ (971 : ℤ) :=
          mul_le_mul_of_nonneg_left (zpow_le_zpow_right₀ one_le_two hhigh) (Nat.cast_nonneg m)
      _ < 2 ^ (53 : ℤ) * 2 ^ (971 : ℤ) :=
          mul_lt_mul_of_pos_right hmantissa (zpow_pos two_pos _)
      _ = 2 ^ (1024 : ℤ) := by rw [← zpow_add₀ two_ne_zero, hsum]
      _ ≤ 10 ^ (312 : ℤ) := by
          rw [zpow_ofNat, zpow_ofNat]
          exact hpower
      _ < 10 ^ (319 : ℤ) := zpow_lt_zpow_right₀ (by norm_num) (by omega)

/-- The point of a double that is not zero stands right above its first digit. -/
theorem pointOf_spec (hm : 0 < m) (hlt : m < 2 ^ 53) (hlow : -1074 ≤ q) (hhigh : q ≤ 971) :
    (10 : ℚ) ^ (pointOf (.ofBinary m q) - 1) ≤ (Fraction.ofBinary m q).val ∧
      (Fraction.ofBinary m q).val < (10 : ℚ) ^ pointOf (.ofBinary m q) := by
  obtain ⟨hleast, hgreatest⟩ := val_ofBinary_bounds hm hlt hlow hhigh
  have hpower : ((649 : ℕ) : ℤ) - 330 = 319 := by norm_num
  exact pointAmong_spec hleast (by rwa [hpower])

/-! ## The grid of seventeen digits -/

/-- What lies strictly between the ends of an interval is contained in it. -/
theorem contains_around (hlow : (Interval.around m q).low.val * 10 ^ (-e) < n)
    (hhigh : n < (Interval.around m q).high.val * 10 ^ (-e)) :
    (Interval.around m q).contains n e = true := by
  have hlowden : 0 < ((Interval.around m q).low.scaleTen (-e)).den :=
    Fraction.den_scaleTen_pos (Fraction.den_ofBinary_pos _ _) _
  have hhighden : 0 < ((Interval.around m q).high.scaleTen (-e)).den :=
    Fraction.den_scaleTen_pos (Fraction.den_ofBinary_pos _ _) _
  have hbelow : ((Interval.around m q).low.scaleTen (-e)).compareNat n = .lt := by
    rwa [Fraction.compareNat_eq_lt_iff hlowden, Fraction.val_scaleTen]
  have habove : ((Interval.around m q).high.scaleTen (-e)).compareNat n = .gt := by
    rwa [Fraction.compareNat_eq_gt_iff hhighden, Fraction.val_scaleTen]
  rw [Interval.contains, hbelow, habove]
  rfl

/-- On a grid on which the value has seventeen digits, the ends of the interval lie on both sides
of the value and more than one apart. -/
theorem around_wider (hm : 0 < m) (hlt : m < 2 ^ 53)
    (hvalue : (10 : ℚ) ^ (16 : ℤ) ≤ (Fraction.ofBinary m q).val * 10 ^ (-e)) :
    (Interval.around m q).low.val * 10 ^ (-e) < (Fraction.ofBinary m q).val * 10 ^ (-e) ∧
      (Fraction.ofBinary m q).val * 10 ^ (-e) < (Interval.around m q).high.val * 10 ^ (-e) ∧
      (Interval.around m q).low.val * 10 ^ (-e) + 1 <
        (Interval.around m q).high.val * 10 ^ (-e) := by
  -- all of them are multiples of a quarter of the last place of the double
  obtain ⟨u, hu⟩ : ∃ u : ℚ, u = 2 ^ (q - 2) * 10 ^ (-e) := ⟨_, rfl⟩
  have hupos : 0 < u := hu ▸ by positivity
  have hquarter : (2 : ℚ) ^ q = 4 * 2 ^ (q - 2) := by
    rw [zpow_sub₀ two_ne_zero, zpow_ofNat]
    ring
  have hscaled : (Fraction.ofBinary m q).val * 10 ^ (-e) = 4 * m * u := by
    rw [Fraction.val_ofBinary, hquarter, hu]
    ring
  have hhigh : (Interval.around m q).high.val * 10 ^ (-e) = (4 * m + 2) * u := by
    rw [Interval.around, Fraction.val_ofBinary, hu]
    push_cast
    ring
  have hsixteen : (10 : ℚ) ^ (16 : ℤ) = 10000000000000000 := by norm_num
  have hone : (1 : ℚ) ≤ m := by exact_mod_cast hm
  rw [hscaled, hsixteen] at hvalue
  rw [hscaled, hhigh]
  by_cases hpower : m = Dyadic.hiddenBit ∧ -1074 < q
  · have hlow : (Interval.around m q).low.val * 10 ^ (-e) = (4 * m - 1) * u := by
      rw [Interval.around, if_pos hpower, Fraction.val_ofBinary, hu, Nat.cast_sub (by omega)]
      push_cast
      ring
    have hbit : (m : ℚ) = 4503599627370496 := by exact_mod_cast hpower.1
    rw [hlow]
    rw [hbit] at hvalue ⊢
    refine ⟨?_, ?_, ?_⟩ <;> linarith
  · have hlow : (Interval.around m q).low.val * 10 ^ (-e) = (4 * m - 2) * u := by
      rw [Interval.around, if_neg hpower, Fraction.val_ofBinary, hu, Nat.cast_sub (by omega)]
      push_cast
      ring
    have hbits : (m : ℚ) < 9007199254740992 := by exact_mod_cast hlt
    have hstep : 1 < 4 * u := by
      by_contra hle
      have := mul_le_mul_of_nonneg_left (not_lt.mp hle) (Nat.cast_nonneg (α := ℚ) m)
      linarith
    rw [hlow]
    refine ⟨?_, ?_, ?_⟩ <;> linarith

/-- Of the two points of that grid next to the value, one is contained in the interval. -/
theorem exists_contains_around (hm : 0 < m) (hlt : m < 2 ^ 53)
    (hvalue : (10 : ℚ) ^ (16 : ℤ) ≤ (Fraction.ofBinary m q).val * 10 ^ (-e)) :
    (Interval.around m q).contains ((Fraction.ofBinary m q).scaleTen (-e)).floor e = true ∨
      (Interval.around m q).contains (((Fraction.ofBinary m q).scaleTen (-e)).floor + 1) e =
        true := by
  obtain ⟨hlow, hhigh, hwide⟩ := around_wider hm hlt hvalue
  have hscaled := Fraction.val_scaleTen (.ofBinary m q) (-e)
  rw [← hscaled] at hlow hhigh
  have hnonneg : 0 ≤ ((Fraction.ofBinary m q).scaleTen (-e)).val := by
    unfold Fraction.val
    positivity
  have hfloor := Nat.floor_le hnonneg
  have hnext := Nat.lt_floor_add_one ((Fraction.ofBinary m q).scaleTen (-e)).val
  rw [← Fraction.floor_eq] at hfloor hnext
  by_cases hbelow : (Interval.around m q).low.val * 10 ^ (-e) <
      ((Fraction.ofBinary m q).scaleTen (-e)).floor
  · exact .inl (contains_around hbelow (hfloor.trans_lt hhigh))
  · refine .inr (contains_around ?_ ?_)
    · push_cast
      exact hlow.trans hnext
    · push_cast
      linarith [not_lt.mp hbelow]

/-- A point of the grid that is taken is one of the two next to the value. -/
theorem nearestIn_cases {tie : Tie} {i : Interval} {value : Fraction}
    (h : nearestIn tie i value e = some n) :
    n = (value.scaleTen (-e)).floor ∨ n = (value.scaleTen (-e)).floor + 1 := by
  unfold nearestIn at h
  grind

theorem isSome_nearestIn {tie : Tie} {i : Interval} {value : Fraction}
    (h : i.contains (value.scaleTen (-e)).floor e = true ∨
      i.contains ((value.scaleTen (-e)).floor + 1) e = true) :
    (nearestIn tie i value e).isSome = true := by
  unfold nearestIn
  grind

/-! ## The shortest decimal -/

/-- Zeros at the end go, the first digit stays. -/
theorem trimZeros_cons {d : Char} (hd : d ≠ '0') (ds : List Char) :
    trimZeros (d :: ds) = d :: trimZeros ds := by
  unfold trimZeros
  rw [List.reverse_cons, List.dropWhile_append]
  split
  next hempty =>
    have hnil : ds.reverse.dropWhile (· = '0') = [] := List.isEmpty_iff.mp hempty
    rw [hnil, List.dropWhile_cons_of_neg (by simpa using hd)]
    rfl
  next => rw [List.reverse_append, List.reverse_singleton, List.singleton_append]

theorem trimZeros_subset (cs : List Char) : trimZeros cs ⊆ cs := by
  intro c hc
  exact List.mem_reverse.mp ((List.dropWhile_sublist _).subset (List.mem_reverse.mp hc))

/-- The digits of a shortest decimal: at least one, and the first one is no zero. -/
structure Digits.IsNormal (d : Digits) : Prop where
  isDigits : IsDigits d.digits
  head_ne : d.digits.head? ≠ some '0'

theorem Digits.IsNormal.exists_eq_cons {d : Digits} (h : d.IsNormal) :
    ∃ c cs, d.digits = c :: cs ∧ c ≠ '0' := by
  obtain ⟨c, cs, hdigits⟩ := List.exists_cons_of_ne_nil h.isDigits.ne_nil
  exact ⟨c, cs, hdigits, fun hc => h.head_ne (by rw [hdigits, hc, List.head?_cons])⟩

theorem isNormal_trimZeros_repr (hn : 0 < n) (p : ℤ) :
    Digits.IsNormal ⟨trimZeros (Nat.repr n).toList, p⟩ := by
  obtain ⟨d, ds, hrepr, hd⟩ := exists_repr_eq_cons hn
  have htrim : trimZeros (Nat.repr n).toList = d :: trimZeros ds := by
    rw [hrepr, trimZeros_cons hd]
  refine ⟨(isDigits_repr n).of_subset ?_ (trimZeros_subset _), ?_⟩
  · rw [htrim]
    exact List.cons_ne_nil _ _
  · dsimp only
    rw [htrim, List.head?_cons]
    exact fun h => hd (Option.some.inj h)

/-- On a grid of any number of digits, the integer part of the value is positive. -/
theorem le_val_scaled {value : Fraction} {point : ℤ}
    (hpoint : (10 : ℚ) ^ (point - 1) ≤ value.val) (count : ℕ) :
    (10 : ℚ) ^ (count : ℤ) ≤ value.val * 10 ^ (-(point - ((count + 1 : ℕ) : ℤ))) := by
  have hsum : point - 1 + -(point - ((count + 1 : ℕ) : ℤ)) = count := by
    push_cast
    ring
  calc (10 : ℚ) ^ (count : ℤ) = 10 ^ (point - 1) * 10 ^ (-(point - ((count + 1 : ℕ) : ℤ))) := by
        rw [← zpow_add₀ (by norm_num), hsum]
    _ ≤ value.val * 10 ^ (-(point - ((count + 1 : ℕ) : ℤ))) := by gcongr

/-- Seventeen digits are enough, and those that are found do not begin with a zero. -/
theorem isNormal_shortestAmong {point : ℤ} {last : ℕ} (tie : Tie) (hm : 0 < m) (hlt : m < 2 ^ 53)
    (hpoint : (10 : ℚ) ^ (point - 1) ≤ (Fraction.ofBinary m q).val) (hlast : 16 < last) :
    (shortestAmong last point tie m q).IsNormal := by
  unfold shortestAmong
  dsimp only
  split
  next count n hfind =>
    obtain ⟨i, -, hi⟩ := List.exists_of_findSome?_eq_some hfind
    obtain ⟨k, hk, heq⟩ := Option.map_eq_some_iff.mp hi
    obtain ⟨rfl, rfl⟩ := Prod.mk.inj heq
    refine isNormal_trimZeros_repr ?_ _
    have hfloor : 0 < ((Fraction.ofBinary m q).scaleTen (-(point - ((i + 1 : ℕ) : ℤ)))).floor := by
      rw [Fraction.floor_eq, Nat.floor_pos, Fraction.val_scaleTen]
      exact le_trans (one_le_zpow₀ (by norm_num) (Int.natCast_nonneg i)) (le_val_scaled hpoint i)
    rcases nearestIn_cases hk with rfl | rfl <;> omega
  next hnone =>
    have hmissing := List.findSome?_eq_none_iff.mp hnone 16 (List.mem_range.mpr hlast)
    have hsome : (nearestIn tie _ _ _).isSome = true :=
      isSome_nearestIn (exists_contains_around hm hlt (le_val_scaled hpoint 16))
    rw [Option.map_eq_none_iff] at hmissing
    rw [hmissing] at hsome
    cases hsome

/-- Every double but zero has a shortest decimal of at most seventeen digits. -/
theorem isNormal_shortest (tie : Tie) (hm : 0 < m) (hlt : m < 2 ^ 53) (hlow : -1074 ≤ q)
    (hhigh : q ≤ 971) : (shortest tie m q).IsNormal :=
  isNormal_shortestAmong tie hm hlt (pointOf_spec hm hlt hlow hhigh).1 (by omega)

end Decimal

end Captioning
