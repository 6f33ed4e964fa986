import Captioning.Decimal.Numeral
import Mathlib.Data.Nat.Digits.Defs

/-!
# Well-formed numerals

The digits of a natural number denote it, and begin with a zero for zero only.  So the numerals
of naturals and integers keep to the grammar of numbers.
-/

namespace Captioning.Decimal

variable {cs ds rest : List Char} {n : Nat}

/-- A row of digits with at least one of them. -/
structure IsDigits (cs : List Char) : Prop where
  ne_nil : cs ≠ []
  isDigit : ∀ c ∈ cs, isDigit c = true

namespace IsDigits

theorem append (hcs : IsDigits cs) (hds : ∀ c ∈ ds, Decimal.isDigit c = true) :
    IsDigits (cs ++ ds) where
  ne_nil := fun hnil => hcs.ne_nil (List.append_eq_nil_iff.mp hnil).1
  isDigit := fun c hc => (List.mem_append.mp hc).elim (hcs.isDigit c) (hds c)

/-- Any part of a row of digits that is not empty is one. -/
theorem of_subset (hcs : IsDigits cs) (hne : ds ≠ []) (hsub : ds ⊆ cs) : IsDigits ds where
  ne_nil := hne
  isDigit := fun c hc => hcs.isDigit c (hsub hc)

end IsDigits

/-! ## Where a row of digits ends -/

theorem takeWhile_isDigit_append (hds : ∀ c ∈ ds, isDigit c = true)
    (hrest : ∀ c ∈ rest.head?, isDigit c = false) : (ds ++ rest).takeWhile isDigit = ds := by
  rw [List.takeWhile_append_of_pos hds]
  cases rest with
  | nil => simp
  | cons c rest => rw [List.takeWhile_cons_of_neg (by simp [hrest c rfl]), List.append_nil]

theorem dropWhile_isDigit_append (hds : ∀ c ∈ ds, isDigit c = true)
    (hrest : ∀ c ∈ rest.head?, isDigit c = false) : (ds ++ rest).dropWhile isDigit = rest := by
  rw [List.dropWhile_append_of_pos hds]
  cases rest with
  | nil => rfl
  | cons c rest => rw [List.dropWhile_cons_of_neg (by simp [hrest c rfl])]

/-! ## The digits of a natural number -/

theorem isDigits_repr (n : Nat) : IsDigits (Nat.repr n).toList where
  ne_nil := by
    rw [Nat.toList_repr]
    exact Nat.toDigits_ne_nil
  isDigit := fun c hc => by
    rw [Nat.toList_repr] at hc
    exact Nat.isDigit_of_mem_toDigits (by omega) (by omega) hc

/-- The digits of a number denote it. -/
theorem digitsValue_repr (n : Nat) : digitsValue (Nat.repr n).toList = n := by
  rw [Nat.toList_repr]
  calc digitsValue (Nat.toDigits 10 n) = Nat.ofDigitChars 10 (Nat.toDigits 10 n) 0 :=
        Nat.ofDigitChars_eq_foldl.symm
    _ = n := Nat.ofDigitChars_ten_toDigits

theorem repr_of_lt_ten (h : n < 10) : (Nat.repr n).toList = [Nat.digitChar n] := by
  rw [Nat.toList_repr, Nat.toDigits_of_lt_base h]

theorem repr_of_ten_le (h : 10 ≤ n) :
    (Nat.repr n).toList = (Nat.repr (n / 10)).toList ++ [Nat.digitChar (n % 10)] := by
  simp only [Nat.toList_repr]
  exact Nat.toDigits_of_base_le (by omega) h

/-- The digits of a positive number do not begin with a zero. -/
theorem exists_repr_eq_cons (h : 0 < n) : ∃ d ds, (Nat.repr n).toList = d :: ds ∧ d ≠ '0' := by
  induction n using Nat.strong_induction_on with
  | _ n ih =>
      by_cases hlt : n < 10
      · exact ⟨_, [], repr_of_lt_ten hlt, fun hzero => h.ne' (Nat.digitChar_eq_zero.mp hzero)⟩
      · obtain ⟨d, ds, hrepr, hd⟩ := ih (n / 10) (by omega) (by omega)
        refine ⟨d, ds ++ [Nat.digitChar (n % 10)], ?_, hd⟩
        rw [repr_of_ten_le (by omega), hrepr, List.cons_append]

/-! ## The grammar of numbers -/

namespace Numeral

/-- A numeral as the grammar of numbers has it: digits before the point, of which the first one
is no zero unless it is alone, and digits wherever there is a fraction or an exponent. -/
structure IsGrammatical (n : Numeral) : Prop where
  whole : IsDigits n.whole
  noLeadingZero : n.whole.head? = some '0' → n.whole.length = 1
  fraction : ∀ f ∈ n.fraction, IsDigits f
  exponent : ∀ e ∈ n.exponent, IsDigits e.digits

theorem repr_noLeadingZero (n : Nat) (h : (Nat.repr n).toList.head? = some '0') :
    (Nat.repr n).toList.length = 1 := by
  rcases Nat.eq_zero_or_pos n with rfl | hpos
  · rfl
  · obtain ⟨d, ds, hrepr, hd⟩ := exists_repr_eq_cons hpos
    rw [hrepr, List.head?_cons, Option.some.injEq] at h
    exact absurd h hd

theorem isGrammatical_ofNat (n : Nat) : (ofNat n).IsGrammatical where
  whole := isDigits_repr n
  noLeadingZero := repr_noLeadingZero n
  fraction := fun _ h => nomatch h
  exponent := fun _ h => nomatch h

theorem isGrammatical_ofInt (n : Int) : (ofInt n).IsGrammatical where
  whole := isDigits_repr n.natAbs
  noLeadingZero := repr_noLeadingZero n.natAbs
  fraction := fun _ h => nomatch h
  exponent := fun _ h => nomatch h

end Numeral

end Captioning.Decimal
