import Captioning.ClockTime
import Captioning.Proofs.Decimal.Numerals
import Mathlib.Data.List.TakeWhile

/-!
# What the text of a time says

A time is written as four rows of digits, for its hours, its minutes, its seconds and a fraction of
a second, with a separator after each of the first three.  A separator is no digit, so a reader has
the rows apart again.  Zeros in front keep the minutes and the seconds at two digits, and the
fraction at nine or at three.  There may be any number of hours.

## Strategy

A time up to the nanosecond and a time up to the millisecond are written alike: each is a number of
units, of which a power of ten makes a second (`rowsOf`).  So one statement serves for both texts.
The rows that are written are those that are read (`Rows.read?_eq_some_iff`), and from them the
number of units is put together again (`tells_rowsOf`).
-/

namespace Captioning

namespace Decimal

variable {cs ds rest : List Char} {separator : Char}

theorem digitsValue_zeros_append (k : ℕ) (cs : List Char) :
    digitsValue (List.replicate k '0' ++ cs) = digitsValue cs := by
  induction k with
  | zero => rfl
  | succ k ih =>
      rw [List.replicate_succ, List.cons_append]
      exact ih

/-- The row of digits in front of a separator, and what comes after the separator. -/
def digitsBefore? (separator : Char) (cs : List Char) : Option (List Char × List Char) :=
  match cs.dropWhile isDigit with
  | [] => none
  | c :: rest =>
      if cs.takeWhile isDigit ≠ [] ∧ c = separator then some (cs.takeWhile isDigit, rest) else none

theorem digitsBefore?_append (hseparator : isDigit separator = false) (hds : IsDigits ds)
    (rest : List Char) : digitsBefore? separator (ds ++ separator :: rest) = some (ds, rest) := by
  have hstop : ∀ c ∈ (separator :: rest).head?, isDigit c = false := by
    rintro c ⟨⟩
    exact hseparator
  rw [digitsBefore?, dropWhile_isDigit_append hds.isDigit hstop,
    takeWhile_isDigit_append hds.isDigit hstop]
  exact if_pos ⟨hds.ne_nil, rfl⟩

/-- A separator that is no digit ends exactly one row of digits. -/
theorem digitsBefore?_eq_some_iff (hseparator : isDigit separator = false) :
    digitsBefore? separator cs = some (ds, rest) ↔ IsDigits ds ∧ cs = ds ++ separator :: rest := by
  constructor
  · intro h
    have hsplit := List.takeWhile_append_dropWhile (p := isDigit) (l := cs)
    unfold digitsBefore? at h
    split at h
    next => cases h
    next c after hafter =>
      split at h
      next hrow =>
        obtain ⟨rfl, rfl⟩ := Prod.mk.inj (Option.some.inj h)
        refine ⟨⟨hrow.1, fun d hd => List.mem_takeWhile_imp hd⟩, ?_⟩
        rw [← hrow.2, ← hafter, hsplit]
      next => cases h
  · rintro ⟨hds, rfl⟩
    exact digitsBefore?_append hseparator hds rest

end Decimal

namespace ClockTime

open Decimal

variable {t u : ClockTime} {cs : List Char} {places n m : ℕ}

/-! ## Numbers of a fixed width -/

theorem toList_padded (width n : ℕ) : (padded width n).toList =
    List.replicate (width - (Nat.repr n).length) '0' ++ (Nat.repr n).toList := by
  simp [padded]

theorem isDigits_padded (width n : ℕ) : IsDigits (padded width n).toList where
  ne_nil := by
    rw [toList_padded]
    exact fun hnil => (isDigits_repr n).ne_nil (List.append_eq_nil_iff.mp hnil).2
  isDigit := by
    intro c hc
    rw [toList_padded, List.mem_append] at hc
    rcases hc with hzero | hdigit
    · rw [List.eq_of_mem_replicate hzero]
      rfl
    · exact (isDigits_repr n).isDigit c hdigit

theorem digitsValue_padded (width n : ℕ) : digitsValue (padded width n).toList = n := by
  rw [toList_padded, digitsValue_zeros_append, digitsValue_repr]

/-- A number that has room is filled up to the width. -/
theorem length_padded {width : ℕ} (hwidth : 0 < width) (hn : n < powerOfTen width) :
    (padded width n).toList.length = width := by
  have hroom : (Nat.repr n).length ≤ width := (Nat.length_repr_le_iff hwidth).mpr hn
  rw [toList_padded, List.length_append, List.length_replicate, String.length_toList]
  omega

/-! ## Rows of digits -/

/-- The rows of digits of a written time. -/
structure Rows where
  hours : List Char
  minutes : List Char
  seconds : List Char
  fraction : List Char

namespace Rows

variable {rows : Rows}

/-- The text that the rows are written as. -/
def chars (rows : Rows) : List Char :=
  rows.hours ++ ':' :: (rows.minutes ++ ':' :: (rows.seconds ++ '.' :: rows.fraction))

/-- Each row has a digit and nothing but digits. -/
structure AreDigits (rows : Rows) : Prop where
  hours : IsDigits rows.hours
  minutes : IsDigits rows.minutes
  seconds : IsDigits rows.seconds
  fraction : IsDigits rows.fraction

/-- The rows of digits that a text is made of. -/
def read? (cs : List Char) : Option Rows := do
  let (hours, cs) ← digitsBefore? ':' cs
  let (minutes, cs) ← digitsBefore? ':' cs
  let (seconds, fraction) ← digitsBefore? '.' cs
  if fraction ≠ [] ∧ fraction.all isDigit then some ⟨hours, minutes, seconds, fraction⟩ else none

/-- The rows that are read are those that are written. -/
theorem read?_eq_some_iff : read? cs = some rows ↔ rows.AreDigits ∧ cs = rows.chars := by
  have hcolon : isDigit ':' = false := rfl
  have hpoint : isDigit '.' = false := rfl
  constructor
  · intro h
    simp only [read?, Option.bind_eq_bind, Option.bind_eq_some_iff, Prod.exists,
      digitsBefore?_eq_some_iff hcolon, digitsBefore?_eq_some_iff hpoint] at h
    obtain ⟨hours, _, ⟨hhours, rfl⟩, minutes, _, ⟨hminutes, rfl⟩, seconds, fraction,
      ⟨hseconds, rfl⟩, hrows⟩ := h
    split at hrows
    next hfraction =>
      obtain rfl := Option.some.inj hrows
      exact ⟨⟨hhours, hminutes, hseconds, hfraction.1, List.all_eq_true.mp hfraction.2⟩, rfl⟩
    next => cases hrows
  · rintro ⟨hrows, rfl⟩
    simp only [read?, chars, digitsBefore?_append hcolon hrows.hours,
      digitsBefore?_append hcolon hrows.minutes, digitsBefore?_append hpoint hrows.seconds,
      Option.bind_eq_bind, Option.bind_some]
    exact if_pos ⟨hrows.fraction.ne_nil, List.all_eq_true.mpr hrows.fraction.isDigit⟩

/-- Rows of digits tell a time: two digits for the minutes and two for the seconds, both below
sixty, a fraction of a second with as many digits as there are places, and hours that do not begin
with a zero unless that is all. -/
structure Tells (rows : Rows) (places : ℕ) (t : ClockTime) : Prop where
  noLeadingZero : rows.hours.head? = some '0' → rows.hours.length = 1
  length_minutes : rows.minutes.length = 2
  length_seconds : rows.seconds.length = 2
  length_fraction : rows.fraction.length = places
  minutes_lt : digitsValue rows.minutes < 60
  seconds_lt : digitsValue rows.seconds < 60
  time_eq : (digitsValue rows.hours * 3600 + digitsValue rows.minutes * 60 +
    digitsValue rows.seconds) * second + digitsValue rows.fraction * powerOfTen (9 - places) = t

end Rows

/-! ## Numbers of units -/

/-- The rows of digits for `n` units, of which ten to the number of places make a second. -/
def rowsOf (places n : ℕ) : Rows where
  hours := (Nat.repr (n / powerOfTen places / 3600)).toList
  minutes := (padded 2 (n / powerOfTen places / 60 % 60)).toList
  seconds := (padded 2 (n / powerOfTen places % 60)).toList
  fraction := (padded places (n % powerOfTen places)).toList

theorem powerOfTen_pos (k : ℕ) : 0 < powerOfTen k :=
  Nat.pow_pos (by decide)

/-- A second in units. -/
theorem second_eq_mul (hplaces : places ≤ 9) :
    second = powerOfTen places * powerOfTen (9 - places) := by
  calc second = 10 ^ 9 := rfl
    _ = 10 ^ (places + (9 - places)) := by rw [Nat.add_sub_cancel' hplaces]
    _ = powerOfTen places * powerOfTen (9 - places) := Nat.pow_add ..

theorem areDigits_rowsOf (places n : ℕ) : (rowsOf places n).AreDigits := by
  constructor <;> dsimp only [rowsOf]
  case hours => exact isDigits_repr _
  case minutes => exact isDigits_padded ..
  case seconds => exact isDigits_padded ..
  case fraction => exact isDigits_padded ..

theorem read?_chars_rowsOf (places n : ℕ) :
    Rows.read? (rowsOf places n).chars = some (rowsOf places n) :=
  Rows.read?_eq_some_iff.mpr ⟨areDigits_rowsOf places n, rfl⟩

/-- From the rows of digits the number of units is put together again. -/
theorem tells_rowsOf (hpositive : 0 < places) (hplaces : places ≤ 9) (n : ℕ) :
    (rowsOf places n).Tells places (n * powerOfTen (9 - places)) := by
  have hsixty (k : ℕ) : k % 60 < 60 := Nat.mod_lt k (by decide)
  have hwidth (k : ℕ) : k % 60 < powerOfTen 2 := (hsixty k).trans (by decide)
  have hseconds (s : ℕ) : s / 3600 * 3600 + s / 60 % 60 * 60 + s % 60 = s := by omega
  constructor <;> dsimp only [rowsOf]
  case noLeadingZero => exact Numeral.repr_noLeadingZero _
  case length_minutes => exact length_padded (by decide) (hwidth _)
  case length_seconds => exact length_padded (by decide) (hwidth _)
  case length_fraction => exact length_padded hpositive (Nat.mod_lt _ (powerOfTen_pos _))
  case minutes_lt =>
    rw [digitsValue_padded]
    exact hsixty _
  case seconds_lt =>
    rw [digitsValue_padded]
    exact hsixty _
  case time_eq =>
    rw [digitsValue_repr, digitsValue_padded, digitsValue_padded, digitsValue_padded, hseconds]
    calc n / powerOfTen places * second + n % powerOfTen places * powerOfTen (9 - places)
        = (n / powerOfTen places * powerOfTen places + n % powerOfTen places) *
            powerOfTen (9 - places) := by
          rw [second_eq_mul hplaces, Nat.add_mul, Nat.mul_assoc]
      _ = n * powerOfTen (9 - places) := by rw [Nat.div_add_mod']

/-- Different numbers of units are written differently. -/
theorem chars_rowsOf_eq_iff (hpositive : 0 < places) (hplaces : places ≤ 9) :
    (rowsOf places n).chars = (rowsOf places m).chars ↔ n = m := by
  constructor
  · intro h
    -- one text is read as one list of rows, and these tell both numbers
    have hread := congrArg Rows.read? h
    rw [read?_chars_rowsOf, read?_chars_rowsOf] at hread
    have hn := (tells_rowsOf hpositive hplaces n).time_eq
    rw [Option.some.inj hread, (tells_rowsOf hpositive hplaces m).time_eq] at hn
    exact (Nat.mul_right_cancel (powerOfTen_pos _) hn).symm
  · rintro rfl
    rfl

/-! ## Times -/

/-- The whole units of a time are written, in the same way for each number of places. -/
theorem toList_written (hplaces : places ≤ 9) (t : ClockTime) :
    (renderSeconds t ++ "." ++ padded places (t % second / powerOfTen (9 - places))).toList =
      (rowsOf places (t / powerOfTen (9 - places))).chars := by
  have hseconds : t / second = t / powerOfTen (9 - places) / powerOfTen places := by
    rw [Nat.div_div_eq_div_mul, second_eq_mul hplaces, Nat.mul_comm (powerOfTen places)]
  have hfraction : t % second / powerOfTen (9 - places) =
      t / powerOfTen (9 - places) % powerOfTen places := by
    rw [second_eq_mul hplaces, Nat.mod_mul_left_div_self]
  have hlarger (k : ℕ) : t / (k * second) =
      t / powerOfTen (9 - places) / powerOfTen places / k := by
    rw [Nat.mul_comm, ← Nat.div_div_eq_div_mul, hseconds]
  simp [renderSeconds, rowsOf, Rows.chars, hlarger, hfraction, hseconds]

theorem toList_render (t : ClockTime) : (render (some t)).toList = (rowsOf 9 t).chars := by
  have hwritten := toList_written (by decide : 9 ≤ 9) t
  have hunit : powerOfTen (9 - 9) = 1 := rfl
  rw [hunit, Nat.div_one, Nat.div_one] at hwritten
  rw [render, hwritten]

theorem toList_renderMillis (t : ClockTime) :
    (renderMillis t).toList = (rowsOf 3 (t / millisecond)).chars := by
  have hwritten := toList_written (by decide : 3 ≤ 9) t
  have hunit : powerOfTen (9 - 3) = millisecond := rfl
  rw [hunit] at hwritten
  rw [renderMillis, hwritten]

theorem render_some_eq_iff : render (some t) = render (some u) ↔ t = u := by
  rw [← String.toList_inj, toList_render, toList_render,
    chars_rowsOf_eq_iff (by decide) (by decide)]

/-- Times have the same text up to the millisecond if and only if they lie in the same one. -/
theorem renderMillis_eq_iff :
    renderMillis t = renderMillis u ↔ t / millisecond = u / millisecond := by
  rw [← String.toList_inj, toList_renderMillis, toList_renderMillis,
    chars_rowsOf_eq_iff (by decide) (by decide)]

/-- The text of an unknown time has no digits. -/
theorem read?_render_none : Rows.read? (render none).toList = none := by
  decide

/-- **The texts of times lose nothing.**  Two times have the same text up to the nanosecond if and
only if they are the same, and the same text up to the millisecond if and only if they lie in the
same millisecond.  Each text consists of rows of digits that are read back from it, with minutes and
seconds below sixty, and they tell the time, or the time rounded down to the millisecond.  An
unknown time has a text of its own, from which nothing is read. -/
theorem time_texts_lose_nothing (t u : ClockTime) :
    (render (some t) = render (some u) ↔ t = u) ∧
      (renderMillis t = renderMillis u ↔ t / millisecond = u / millisecond) ∧
      (∃ rows, (render (some t)).toList = rows.chars ∧ Rows.read? rows.chars = some rows ∧
        rows.Tells 9 t) ∧
      (∃ rows, (renderMillis t).toList = rows.chars ∧ Rows.read? rows.chars = some rows ∧
        rows.Tells 3 (t / millisecond * millisecond)) ∧
      render (some t) ≠ render none ∧ Rows.read? (render none).toList = none := by
  have hnanos : (rowsOf 9 t).Tells 9 t := by
    simpa [powerOfTen] using tells_rowsOf (by decide : 0 < 9) (by decide) t
  have hmillis : (rowsOf 3 (t / millisecond)).Tells 3 (t / millisecond * millisecond) :=
    tells_rowsOf (by decide : 0 < 3) (by decide) (t / millisecond)
  refine ⟨render_some_eq_iff, renderMillis_eq_iff,
    ⟨_, toList_render t, read?_chars_rowsOf .., hnanos⟩,
    ⟨_, toList_renderMillis t, read?_chars_rowsOf .., hmillis⟩, ?_, read?_render_none⟩
  intro h
  have hread : Rows.read? (render (some t)).toList = some (rowsOf 9 t) := by
    rw [toList_render, read?_chars_rowsOf]
  rw [h, read?_render_none] at hread
  cases hread

/-- The last clock time is written with more than five million hours. -/
example : render (some (limit - 1)) = "5124095:34:33.709551615" ∧
    renderMillis (limit - 1) = "5124095:34:33.709" := by
  decide +kernel

end ClockTime

end Captioning
