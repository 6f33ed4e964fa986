import Captioning.Json.Reader
import Captioning.Proofs.Decimal.Numerals

/-!
# Numbers and strings are read back

A scanner takes exactly the characters of a number or of a string off the front of a longer text,
unless what follows a number could continue it.
-/

namespace Captioning.Json

open Decimal

variable {c : Char} {cs ds rest : List Char} {n : Nat}

/-! ## Numbers -/

/-- Characters that do not continue a number which ends before them. -/
def EndsNumber (rest : List Char) : Prop :=
  ∀ c ∈ rest.head?, isDigit c = false ∧ c ≠ '.' ∧ c ≠ 'e' ∧ c ≠ 'E'

/-- The characters of a fraction, from the point on. -/
def fractionChars : Option (List Char) → List Char
  | none => []
  | some f => '.' :: f

theorem chars_eq (n : Numeral) :
    n.chars = (if n.negative then ['-'] else []) ++
      (n.whole ++ (fractionChars n.fraction ++ Numeral.exponentChars n.exponent)) := by
  obtain ⟨negative, whole, fraction, exponent⟩ := n
  cases fraction <;> simp only [Numeral.chars, fractionChars, List.append_assoc, List.nil_append]

theorem readFraction?_append {f : Option (List Char)} (hf : ∀ ds ∈ f, IsDigits ds)
    (hrest : ∀ c ∈ rest.head?, isDigit c = false ∧ c ≠ '.') :
    readFraction? (fractionChars f ++ rest) = some (f, rest) := by
  cases f with
  | none =>
      cases rest with
      | nil => rfl
      | cons c rest =>
          have hpoint : c ≠ '.' := (hrest c rfl).2
          unfold readFraction?
          split
          next heq => exact absurd (List.cons.inj heq).1 hpoint
          next => rfl
  | some ds =>
      have hds := hf ds rfl
      have hdigit : ∀ c ∈ rest.head?, isDigit c = false := fun c hc => (hrest c hc).1
      simp only [fractionChars, List.cons_append, readFraction?,
        takeWhile_isDigit_append hds.isDigit hdigit, dropWhile_isDigit_append hds.isDigit hdigit,
        if_neg hds.ne_nil]

theorem readExponent?_append {e : Option Exponent} (he : ∀ p ∈ e, IsDigits p.digits)
    (hrest : EndsNumber rest) :
    readExponent? (Numeral.exponentChars e ++ rest) = some (e, rest) := by
  cases e with
  | none =>
      cases rest with
      | nil => rfl
      | cons c rest =>
          obtain ⟨-, -, hlower, hupper⟩ := hrest c rfl
          unfold readExponent?
          split
          next heq => exact absurd (List.cons.inj heq).1 hlower
          next heq => exact absurd (List.cons.inj heq).1 hupper
          next => rfl
  | some p =>
      obtain ⟨negative, ds⟩ := p
      have hds : IsDigits ds := he _ rfl
      have hdigit : ∀ c ∈ rest.head?, isDigit c = false := fun c hc => (hrest c hc).1
      cases negative <;>
        simp [Numeral.exponentChars, readExponent?, readPower?,
          takeWhile_isDigit_append hds.isDigit hdigit, dropWhile_isDigit_append hds.isDigit hdigit,
          hds.ne_nil]

/-- The first character of a fraction or of an exponent is no digit. -/
theorem head?_fraction_exponent {f : Option (List Char)} {e : Option Exponent}
    (hrest : EndsNumber rest) :
    ∀ c ∈ (fractionChars f ++ (Numeral.exponentChars e ++ rest)).head?, isDigit c = false := by
  intro c hc
  cases f with
  | some f =>
      obtain rfl : '.' = c := by simpa [fractionChars] using hc
      rfl
  | none => cases e with
    | some p =>
        obtain rfl : 'e' = c := by simpa [fractionChars, Numeral.exponentChars] using hc
        rfl
    | none => exact (hrest c hc).1

theorem head?_exponent {e : Option Exponent} (hrest : EndsNumber rest) :
    ∀ c ∈ (Numeral.exponentChars e ++ rest).head?, isDigit c = false ∧ c ≠ '.' := by
  intro c hc
  cases e with
  | some p =>
      obtain rfl : 'e' = c := by simpa [Numeral.exponentChars] using hc
      exact ⟨rfl, by decide⟩
  | none => exact ⟨(hrest c hc).1, (hrest c hc).2.1⟩

theorem readUnsigned?_append {m : Numeral} (hm : m.IsGrammatical) (hrest : EndsNumber rest) :
    readUnsigned? m.negative
      (m.whole ++ (fractionChars m.fraction ++ (Numeral.exponentChars m.exponent ++ rest))) =
        some (m, rest) := by
  have hhead := head?_fraction_exponent (f := m.fraction) (e := m.exponent) hrest
  have hzero : ¬(m.whole = [] ∨ m.whole.head? = some '0' ∧ 1 < m.whole.length) := by
    rintro (hnil | ⟨hhead, hlength⟩)
    · exact hm.whole.ne_nil hnil
    · exact absurd (hm.noLeadingZero hhead) (by omega)
  simp only [readUnsigned?, takeWhile_isDigit_append hm.whole.isDigit hhead,
    dropWhile_isDigit_append hm.whole.isDigit hhead, if_neg hzero,
    readFraction?_append hm.fraction (head?_exponent hrest),
    readExponent?_append hm.exponent hrest, Option.bind_eq_bind, Option.bind_some]
  rfl

/-- A number is read back, and what follows it is left. -/
theorem readNumber?_chars_append {m : Numeral} (hm : m.IsGrammatical) (hrest : EndsNumber rest) :
    readNumber? (m.chars ++ rest) = some (m, rest) := by
  have hread := readUnsigned?_append hm hrest
  rw [chars_eq]
  simp only [List.append_assoc]
  obtain ⟨negative, whole, fraction, exponent⟩ := m
  cases negative with
  | true => exact hread
  | false =>
      obtain ⟨d, ds, rfl⟩ := List.exists_cons_of_ne_nil hm.whole.ne_nil
      have hminus : d ≠ '-' := by
        rintro rfl
        exact absurd (hm.whole.isDigit '-' List.mem_cons_self) (by decide)
      simp only [Bool.false_eq_true, if_false, List.nil_append, List.cons_append] at hread ⊢
      unfold readNumber?
      split
      next heq => exact absurd (List.cons.inj heq).1 hminus
      next => exact hread

/-- A number begins with a minus or a digit. -/
theorem exists_chars_eq_cons {m : Numeral} (hm : m.IsGrammatical) :
    ∃ d ds, m.chars = d :: ds ∧ (d = '-' ∨ isDigit d = true) := by
  obtain ⟨d, ds, hwhole⟩ := List.exists_cons_of_ne_nil hm.whole.ne_nil
  rw [chars_eq]
  cases m.negative with
  | true => exact ⟨'-', _, rfl, .inl rfl⟩
  | false =>
      rw [hwhole]
      exact ⟨d, _, rfl, .inr (hm.whole.isDigit d (hwhole ▸ List.mem_cons_self))⟩

/-! ## Strings -/

/-- The part of a string that `c` is read as: control characters without a letter of their own
are units, all others characters. -/
theorem escapeChar_cases (c : Char) :
    (∃ e, escapeChar c = ['\\', e] ∧ e ≠ 'u' ∧ escaped? e = some c) ∨
      (c.toNat < 32 ∧ ∃ h l, escapeChar c = ['\\', 'u', '0', '0', h, l] ∧
        unit? '0' '0' h l = some c.toNat) ∨
      (escapeChar c = [c] ∧ c ≠ '"' ∧ c ≠ '\\' ∧ ¬c.toNat < 32) := by
  unfold escapeChar
  split
  next h => exact .inl ⟨'"', rfl, by decide, by rw [h]; rfl⟩
  split
  next h => exact .inl ⟨'\\', rfl, by decide, by rw [h]; rfl⟩
  split
  next h => exact .inl ⟨'b', rfl, by decide, by rw [h]; rfl⟩
  split
  next h => exact .inl ⟨'f', rfl, by decide, by rw [h]; rfl⟩
  split
  next h => exact .inl ⟨'n', rfl, by decide, by rw [h]; rfl⟩
  split
  next h => exact .inl ⟨'r', rfl, by decide, by rw [h]; rfl⟩
  split
  next h => exact .inl ⟨'t', rfl, by decide, by rw [h]; rfl⟩
  split
  next hquote hslash _ _ _ _ _ hcontrol =>
    have hdigits : ∀ n < 32, unit? '0' '0' (hexDigit (n / 16)) (hexDigit (n % 16)) = some n := by
      decide
    exact .inr (.inl ⟨hcontrol, _, _, rfl, hdigits _ hcontrol⟩)
  next hquote hslash _ _ _ _ _ hcontrol => exact .inr (.inr ⟨rfl, hquote, hslash, hcontrol⟩)

/-- A unit that is no half of a surrogate pair is a character by itself. -/
theorem charsOf?_unit (h : n < 0xD800) (parts : List StringPart) :
    charsOf? (.unit n :: parts) = (charsOf? parts).map (Char.ofNat n :: ·) := by
  have hhigh : isHighHalf n = false := by
    rw [isHighHalf, Bool.and_eq_false_iff]
    exact .inl (by simpa using h)
  have hlow : isLowHalf n = false := by
    rw [isLowHalf, Bool.and_eq_false_iff]
    exact .inl (by simp; omega)
  rcases parts with - | ⟨c | m, parts⟩ <;> simp [charsOf?, hhigh, hlow]

/-- One escaped character is read as one part that denotes it. -/
theorem readParts?_escapeChar_append (c : Char) (rest : List Char) :
    ∃ part, readParts? (escapeChar c ++ rest) =
        (readParts? rest).map (fun r => (part :: r.1, r.2)) ∧
      ∀ parts, charsOf? (part :: parts) = (charsOf? parts).map (c :: ·) := by
  rcases escapeChar_cases c with ⟨e, hescaped, hu, he⟩ | ⟨hcontrol, h, l, hescaped, hunit⟩ |
    ⟨hself, hquote, hslash, hcontrol⟩
  · refine ⟨.char c, ?_, fun parts => rfl⟩
    rw [hescaped, List.cons_append, List.cons_append, List.nil_append, readParts?]
    · rw [he]
      cases readParts? rest <;> rfl
    · exact fun _ _ _ _ _ heq _ => hu heq
  · refine ⟨.unit c.toNat, ?_, fun parts => ?_⟩
    · rw [hescaped]
      simp only [List.cons_append, List.nil_append, readParts?, hunit]
      cases readParts? rest <;> rfl
    · rw [charsOf?_unit (by omega), Char.ofNat_toNat]
  · refine ⟨.char c, ?_, fun parts => rfl⟩
    rw [hself, List.singleton_append, readParts?]
    · rw [if_neg hcontrol]
      cases readParts? rest <;> rfl
    all_goals simp_all

theorem readParts?_escaped_append (cs rest : List Char) :
    ∃ parts, readParts? (cs.flatMap escapeChar ++ '"' :: rest) = some (parts, rest) ∧
      charsOf? parts = some cs := by
  induction cs with
  | nil => exact ⟨[], by simp [readParts?], rfl⟩
  | cons c cs ih =>
      obtain ⟨parts, hread, hchars⟩ := ih
      obtain ⟨part, hpart, hdenotes⟩ :=
        readParts?_escapeChar_append c (cs.flatMap escapeChar ++ '"' :: rest)
      refine ⟨part :: parts, ?_, ?_⟩
      · rw [List.flatMap_cons, List.append_assoc, hpart, hread]
        rfl
      · rw [hdenotes, hchars]
        rfl

/-- A string is read back from after its opening quote on, and what follows it is left. -/
theorem readString?_escaped_append (s : String) (rest : List Char) :
    readString? (s.toList.flatMap escapeChar ++ '"' :: rest) = some (some s, rest) := by
  obtain ⟨parts, hread, hchars⟩ := readParts?_escaped_append s.toList rest
  simp only [readString?, hread, hchars, Option.map_some, String.ofList_toList]

end Captioning.Json
