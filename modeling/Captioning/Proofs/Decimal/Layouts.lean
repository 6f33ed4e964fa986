import Captioning.Proofs.Decimal.Digits

/-!
# Numerals of doubles

Whatever the layout, a finite double is written as the grammar of numbers has it.
-/

namespace Captioning.Decimal.NumeralLayout

variable {l : NumeralLayout} {negative : Bool} {d : Digits}

theorem isDigit_of_mem_zeros {c : Char} {k : ℕ} (h : c ∈ List.replicate k '0') :
    c.isDigit = true := by
  rw [List.eq_of_mem_replicate h]
  rfl

theorem isDigits_zeros {k : ℕ} (hk : 0 < k) : IsDigits (List.replicate k '0') where
  ne_nil := by
    rw [Ne, List.replicate_eq_nil_iff]
    omega
  isDigit := fun _ => isDigit_of_mem_zeros

theorem isDigits_noFraction (l : NumeralLayout) : ∀ f ∈ l.noFraction, IsDigits f := by
  intro f hf
  unfold noFraction at hf
  split at hf
  · obtain rfl := Option.some.inj hf
    exact isDigits_zeros Nat.one_pos
  · cases hf

/-- A number whose digits before the point are a zero alone. -/
theorem isGrammatical_zero {fraction : Option (List Char)} (h : ∀ f ∈ fraction, IsDigits f) :
    Numeral.IsGrammatical ⟨negative, ['0'], fraction, none⟩ where
  whole := isDigits_zeros Nat.one_pos
  noLeadingZero := fun _ => rfl
  fraction := h
  exponent := fun _ h => nomatch h

theorem isGrammatical_positional (hd : d.IsNormal) :
    (l.positional negative d).IsGrammatical := by
  unfold positional
  split
  · refine isGrammatical_zero fun f hf => ?_
    obtain rfl := Option.some.inj hf
    refine ⟨?_, fun c hc => ?_⟩
    · exact fun hnil => hd.isDigits.ne_nil (List.append_eq_nil_iff.mp hnil).2
    · exact (List.mem_append.mp hc).elim isDigit_of_mem_zeros (hd.isDigits.isDigit c)
  next hpoint =>
    obtain ⟨c, cs, hdigits, hhead⟩ := hd.exists_eq_cons
    split
    next hlength =>
      obtain ⟨k, hk⟩ : ∃ k, d.point.toNat = k + 1 := ⟨d.point.toNat - 1, by omega⟩
      constructor <;> dsimp only
      · refine hd.isDigits.of_subset ?_ (List.take_subset _ _)
        rw [hdigits, hk, List.take_succ_cons]
        exact List.cons_ne_nil _ _
      · rw [hdigits, hk, List.take_succ_cons, List.head?_cons]
        exact fun h => absurd (Option.some.inj h) hhead
      · intro f hf
        obtain rfl := Option.some.inj hf
        refine hd.isDigits.of_subset ?_ (List.drop_subset _ _)
        rw [Ne, List.drop_eq_nil_iff]
        omega
      · exact fun _ h => nomatch h
    · constructor <;> dsimp only
      · exact hd.isDigits.append fun _ => isDigit_of_mem_zeros
      · rw [hdigits, List.cons_append, List.head?_cons]
        exact fun h => absurd (Option.some.inj h) hhead
      · exact isDigits_noFraction l
      · exact fun _ h => nomatch h

theorem isGrammatical_scientific (hd : d.IsNormal) :
    (scientific negative d).IsGrammatical := by
  obtain ⟨c, cs, hdigits, -⟩ := hd.exists_eq_cons
  constructor <;> dsimp only [scientific]
  · refine hd.isDigits.of_subset ?_ (List.take_subset _ _)
    rw [hdigits]
    exact List.cons_ne_nil _ _
  · rw [hdigits]
    exact fun _ => rfl
  · intro f hf
    split at hf
    · cases hf
    next hlength =>
      obtain rfl := Option.some.inj hf
      refine hd.isDigits.of_subset ?_ (List.drop_subset _ _)
      rw [Ne, List.drop_eq_nil_iff]
      exact hlength
  · intro e he
    obtain rfl := Option.some.inj he
    exact isDigits_repr _

/-- A double is written as the grammar of numbers has it, in every layout. -/
theorem isGrammatical_of_numeral? {x : Float} {n : Numeral} (h : l.numeral? x = some n) :
    n.IsGrammatical := by
  obtain ⟨d, hd, rfl⟩ := Option.map_eq_some_iff.mp h
  have hfinite := Dyadic.isFinite_of_ofFloat? hd
  unfold numeral
  split
  · exact isGrammatical_zero (isDigits_noFraction l)
  next hm =>
    have hnormal := isNormal_shortest l.tie (Nat.pos_of_ne_zero hm) hfinite.mantissa_lt
      hfinite.le_exponent hfinite.exponent_le
    dsimp only
    split
    · exact isGrammatical_positional hnormal
    · exact isGrammatical_scientific hnormal

end Captioning.Decimal.NumeralLayout
