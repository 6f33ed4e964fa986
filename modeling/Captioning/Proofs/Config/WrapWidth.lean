import Captioning.Config.Basic

/-!
# The width of lines

A line of text has some room, which is an exact integer: a part of the frame for text of fixed size,
and a number of design units for text that grows with the frame.  The rasterizer is given a number
of thirty-two bits that is not zero.  Text of fixed size gets the number nearest to the room.  Text
that grows with the frame gets its lower bits, which is the same as long as the room has no more
than thirty-two of them.  Only a frame that is many million times as high as it is wide has more
room than that (`wrapsAround_iff`); there the width may even be zero, and lower for a higher frame.
-/

namespace Captioning.Config

/-- The room of a line in exact numbers.  Text that grows with the frame is laid out for frames of
640 columns; if it runs from top to bottom, it has the height between the paddings. -/
def lineRoom (c : Config) (width height : Nat) : Int :=
  if c.autoResize then
    if c.verticalRender then Int.tdiv (640 * ((height : Int) - 2 * c.ypad.toInt)) width else 640
  else if c.verticalRender then (height : Int) - c.deltax.toInt
  else (width : Int) - c.deltax.toInt

/-- The number nearest to `n` that has thirty-two bits and is not zero. -/
def boundedWidth (n : Int) : Nat :=
  (min (max n 1) (wordCount - 1)).toNat

/-- The room has more than thirty-two bits, of which only the lower ones are kept. -/
def WrapsAround (c : Config) (width height : Nat) : Prop :=
  c.autoResize = true ∧ (wordCount : Int) ≤ c.lineRoom width height

variable {c : Config} {width height height' : Nat}

/-! ## The room -/

theorem scaledWrapWidth_eq (hauto : c.autoResize = true) (hwidth : 0 < width) :
    c.scaledWrapWidth width height = c.lineRoom width height := by
  simp only [scaledWrapWidth, lineRoom, hauto, hwidth, and_true, if_true, designWidth]
  rfl

theorem fixedWrapWidth_eq (hauto : c.autoResize = false) :
    c.fixedWrapWidth width height = c.lineRoom width height := by
  simp only [fixedWrapWidth, lineRoom, hauto, Bool.false_eq_true, if_false]
  split
  · rfl
  · rfl

/-- A higher frame has no less room for a line. -/
theorem lineRoom_mono (hwidth : 0 < width) (hle : height ≤ height') :
    c.lineRoom width height ≤ c.lineRoom width height' := by
  unfold lineRoom
  split
  · split
    · apply Int.tdiv_le_tdiv
      · omega
      · omega
    · exact Int.le_refl _
  · split
    · omega
    · exact Int.le_refl _

/-- The room wraps around on frames that are very high and very narrow. -/
theorem wrapsAround_iff (hwidth : 0 < width) : c.WrapsAround width height ↔
    c.autoResize = true ∧ c.verticalRender = true ∧
      (wordCount : Int) * width ≤ 640 * ((height : Int) - 2 * c.ypad.toInt) := by
  have hpos : (0 : Int) < width := by omega
  unfold WrapsAround
  by_cases hauto : c.autoResize = true
  · by_cases hvertical : c.verticalRender = true
    · simp only [lineRoom, hauto, hvertical, if_true, true_and]
      rcases Int.lt_or_le (640 * ((height : Int) - 2 * c.ypad.toInt)) 0 with hneg | hnonneg
      · -- without any room both sides fail
        have hquotient : Int.tdiv (640 * ((height : Int) - 2 * c.ypad.toInt)) width ≤ 0 := by
          have hle := Int.tdiv_le_tdiv hpos (Int.le_of_lt hneg)
          rwa [Int.zero_tdiv] at hle
        have hproduct : (0 : Int) ≤ wordCount * width :=
          Int.mul_nonneg (Int.natCast_nonneg _) (Int.natCast_nonneg _)
        have hcount : (0 : Int) < wordCount := by decide
        constructor
        · intro hle
          omega
        · intro hle
          omega
      · rw [Int.tdiv_eq_ediv_of_nonneg hnonneg, Int.le_ediv_iff_mul_le hpos]
    · have hdesign : ¬(wordCount : Int) ≤ 640 := by decide
      simp [lineRoom, hauto, hvertical, hdesign]
  · simp [hauto]

/-! ## The width -/

theorem one_le_boundedWidth (n : Int) : 1 ≤ boundedWidth n := by
  simp only [boundedWidth, wordCount]
  omega

theorem boundedWidth_mono {m n : Int} (hle : m ≤ n) : boundedWidth m ≤ boundedWidth n := by
  simp only [boundedWidth, wordCount]
  omega

/-- The lower bits of a number that has more than thirty-two are the nearest number only if they
are all set. -/
theorem toNat_emod_eq_boundedWidth_iff {n : Int} (hgreat : (wordCount : Int) ≤ n) :
    (n % wordCount).toNat = boundedWidth n ↔ n % wordCount = wordCount - 1 := by
  simp only [boundedWidth, wordCount] at hgreat ⊢
  omega

theorem one_le_toNat_emod_iff {n : Int} :
    1 ≤ (n % wordCount).toNat ↔ ¬(wordCount : Int) ∣ n := by
  simp only [wordCount]
  omega

theorem wrapWidth_eq_none_iff : c.wrapWidth? width height = none ↔ c.wrapMode = .never := by
  unfold wrapWidth?
  split
  next hnever => exact iff_of_true rfl hnever
  next hbroken =>
    split
    · exact iff_of_false (Option.some_ne_none _) hbroken
    · exact iff_of_false (Option.some_ne_none _) hbroken

open Classical in
/-- The width of a line is the number nearest to its room, or the lower bits of a room that wraps
around. -/
theorem wrapWidth_eq (hwidth : 0 < width) (hmode : c.wrapMode ≠ .never) :
    c.wrapWidth? width height =
      if c.WrapsAround width height then some (c.lineRoom width height % wordCount).toNat
      else some (boundedWidth (c.lineRoom width height)) := by
  unfold wrapWidth? WrapsAround
  rw [if_neg hmode]
  cases hauto : c.autoResize with
  | true =>
      rw [if_pos rfl, scaledWrapWidth_eq hauto hwidth]
      by_cases hgreat : (wordCount : Int) ≤ c.lineRoom width height
      · simp only [hgreat, and_self, if_true, Option.some.injEq]
        simp only [wordCount] at hgreat ⊢
        omega
      · simp only [hgreat, and_false, if_false, Option.some.injEq]
        simp only [wordCount, boundedWidth] at hgreat ⊢
        omega
  | false =>
      rw [if_neg Bool.false_ne_true, fixedWrapWidth_eq hauto]
      simp only [Bool.false_eq_true, false_and, if_false, boundedWidth]

/-- **The width of a line is exact unless it wraps around.**  Lines have no width exactly if they
are never broken.  Otherwise the width is the number nearest to the room of a line, unless the room
wraps around: then it consists of the lower bits of the room, which are the right ones only if they
are all set.  The width is zero exactly if the room wraps around to zero, and it does not decrease
for a higher frame as long as the room does not wrap around there. -/
theorem wrap_width_exact_iff (c : Config) {width : Nat} (hwidth : 0 < width) (markup : Bool) :
    let wrapWidth := fun height => (c.textStyle width height markup).wrapWidth
    let room := c.lineRoom width
    (∀ height, wrapWidth height = none ↔ c.wrapMode = .never) ∧
    (c.wrapMode ≠ .never → ∀ height,
      (c.WrapsAround width height → wrapWidth height = some (room height % wordCount).toNat) ∧
      (wrapWidth height = some (boundedWidth (room height)) ↔
        ¬c.WrapsAround width height ∨ room height % wordCount = wordCount - 1) ∧
      ∀ n, wrapWidth height = some n →
        (1 ≤ n ↔ ¬(c.WrapsAround width height ∧ (wordCount : Int) ∣ room height))) ∧
    ∀ height height', height ≤ height' → ¬c.WrapsAround width height' →
      ∀ n n', wrapWidth height = some n → wrapWidth height' = some n' → n ≤ n' := by
  intro wrapWidth room
  refine ⟨fun height => wrapWidth_eq_none_iff, ?_, ?_⟩
  · intro hmode height
    have heq : wrapWidth height = _ := wrapWidth_eq hwidth hmode
    by_cases hwraps : c.WrapsAround width height
    · rw [if_pos hwraps] at heq
      refine ⟨fun _ => heq, ?_, ?_⟩
      · rw [heq, Option.some.injEq, toNat_emod_eq_boundedWidth_iff hwraps.2]
        simp only [hwraps, not_true_eq_false, false_or]
        rfl
      · intro n hn
        obtain rfl := Option.some.inj (heq.symm.trans hn)
        simp only [one_le_toNat_emod_iff, hwraps, true_and]
        rfl
    · rw [if_neg hwraps] at heq
      refine ⟨fun h => absurd h hwraps, iff_of_true heq (.inl hwraps), ?_⟩
      intro n hn
      obtain rfl := Option.some.inj (heq.symm.trans hn)
      refine iff_of_true (one_le_boundedWidth _) ?_
      intro h
      exact hwraps h.1
  · intro height height' hle hexact n n' hn hn'
    have hmode : c.wrapMode ≠ .never := by
      intro hnever
      have hnone : wrapWidth height = none := wrapWidth_eq_none_iff.mpr hnever
      exact absurd (hnone.symm.trans hn) (by simp)
    have hroom := lineRoom_mono (c := c) hwidth hle
    -- where a higher frame does not wrap around, a lower one does not either
    have hlower : ¬c.WrapsAround width height := by
      intro hwraps
      exact hexact ⟨hwraps.1, Int.le_trans hwraps.2 hroom⟩
    have heq : wrapWidth height = _ := wrapWidth_eq hwidth hmode
    have heq' : wrapWidth height' = _ := wrapWidth_eq hwidth hmode
    rw [if_neg hlower] at heq
    rw [if_neg hexact] at heq'
    obtain rfl := Option.some.inj (heq.symm.trans hn)
    obtain rfl := Option.some.inj (heq'.symm.trans hn')
    exact boundedWidth_mono hroom

/-- On a frame of 1280 by 720, a line of text from top to bottom has half of the height between
the paddings. -/
theorem wrap_width_exact_upright :
    let c := { initial with verticalRender := true }
    0 < 1280 ∧ c.wrapMode ≠ .never ∧ ¬c.WrapsAround 1280 720 ∧
      (c.textStyle 1280 720 true).wrapWidth = some 335 := by
  intro c
  have hexact : ¬c.WrapsAround 1280 720 := by
    rw [wrapsAround_iff (by decide)]
    decide
  have hwidth : 0 < 1280 := by decide
  have hmode : c.wrapMode ≠ .never := by decide
  obtain ⟨-, hwidths, -⟩ := wrap_width_exact_iff c hwidth true
  exact ⟨hwidth, hmode, hexact, (hwidths hmode 720).2.1.mpr (.inl hexact)⟩

/-- On a frame of a single column the width of a line wraps around to zero, although it has more
room than on a frame that is less high by one row. -/
theorem wrap_width_vanishes :
    let c := { initial with verticalRender := true }
    c.isValid = true ∧ boundedWidth (c.lineRoom 1 33554482) = 4294967295 ∧
      (c.textStyle 1 33554482 true).wrapWidth = some 0 ∧
      (c.textStyle 1 33554481 true).wrapWidth = some 4294966656 := by
  decide +kernel

end Captioning.Config
