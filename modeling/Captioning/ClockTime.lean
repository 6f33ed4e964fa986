import Captioning.Width

/-!
# Clock time

Both inputs are stamped in nanoseconds.  A clock time is a natural number below
`ClockTime.limit`; an unknown time is `none`, never a special number.
-/

namespace Captioning

/-- Nanoseconds. -/
abbrev ClockTime := Nat

namespace ClockTime

/-- Clock times are the numbers below this one. -/
def limit : Nat :=
  longCount

/-- One millisecond. -/
def millisecond : ClockTime :=
  1000000

/-- One second. -/
def second : ClockTime :=
  1000000000

/-- `n`, when it is a clock time. -/
def ofNat? (n : Nat) : Option ClockTime :=
  if n < limit then some n else none

/-- The sum, when it is a clock time. -/
def add? (a b : ClockTime) : Option ClockTime :=
  ofNat? (a + b)

/-- The sum, or the last clock time when the sum lies past it. -/
def addSaturating (a b : ClockTime) : ClockTime :=
  min (a + b) (limit - 1)

/-- `value * num / denom` rounded down, computed exactly.  There is no answer for a zero
denominator or a quotient that is no clock time. -/
def scale? (value num denom : Nat) : Option ClockTime :=
  if denom = 0 then none else ofNat? (value * num / denom)

/-- The decimal digits of `n`, padded with zeros on the left to `width`. -/
def padded (width n : Nat) : String :=
  let digits := Nat.repr n
  String.ofList (List.replicate (width - digits.length) '0') ++ digits

/-- Hours, minutes and seconds: `H:MM:SS`. -/
def renderSeconds (t : ClockTime) : String :=
  Nat.repr (t / (3600 * second)) ++ ":" ++ padded 2 (t / (60 * second) % 60) ++ ":" ++
    padded 2 (t / second % 60)

/-- `H:MM:SS.nnnnnnnnn`; an unknown time is written with dashes. -/
def render : Option ClockTime → String
  | some t => renderSeconds t ++ "." ++ padded 9 (t % second)
  | none => "--:--:--.---------"

/-- `H:MM:SS.mmm`, rounded down to the millisecond. -/
def renderMillis (t : ClockTime) : String :=
  renderSeconds t ++ "." ++ padded 3 (t % second / millisecond)

/-- A known sum is the sum. -/
theorem add?_eq_some_iff {a b c : ClockTime} : add? a b = some c ↔ a + b < limit ∧ c = a + b := by
  unfold add? ofNat?
  split <;> rename_i h <;> simp [h, eq_comm]

end ClockTime

end Captioning
