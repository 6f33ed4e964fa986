import Captioning.Dyadic

/-!
# The fewest digits that read back

The shortest decimal of a positive double is the decimal with the fewest significant digits
among those that round to it, and of several with that many digits the nearest one.

## Strategy

The reals that round to `m * 2 ^ q` form an interval whose ends are included exactly when `m`
is even.  For `1, 2, …, 17` digits the two points of that decimal grid around the value are
tested in exact arithmetic.  The first grid with a point in the interval wins, since a grid
with any point in the interval has one next to the value.
-/

namespace Captioning.Decimal

/-- The decimal `0.d₁d₂…dₙ * 10 ^ point`, with `d₁ ≠ 0` unless the value is zero. -/
structure Digits where
  digits : List Char
  point : Int
  deriving DecidableEq

/-- Which of two equally near decimals is taken. -/
inductive Tie where
  /-- The greater one. -/
  | up
  /-- The one whose last digit is even. -/
  | even
  deriving DecidableEq

/-- A non-negative fraction. -/
structure Fraction where
  num : Nat
  den : Nat

namespace Fraction

/-- The fraction `n * 2 ^ e`. -/
def ofBinary (n : Nat) (e : Int) : Fraction :=
  if 0 ≤ e then ⟨n * powerOfTwo e.toNat, 1⟩ else ⟨n, powerOfTwo (-e).toNat⟩

/-- `f * 10 ^ e`. -/
def scaleTen (f : Fraction) (e : Int) : Fraction :=
  if 0 ≤ e then ⟨f.num * powerOfTen e.toNat, f.den⟩
  else ⟨f.num, f.den * powerOfTen (-e).toNat⟩

/-- The integer part. -/
def floor (f : Fraction) : Nat :=
  f.num / f.den

/-- Compares the fraction with an integer. -/
def compareNat (f : Fraction) (n : Nat) : Ordering :=
  compare f.num (n * f.den)

end Fraction

/-- The reals that round to a double, in quarters of its last place. -/
structure Interval where
  low : Fraction
  high : Fraction
  closed : Bool

/-- The interval of reals that round to `m * 2 ^ q`.  Below a power of two the doubles lie
twice as close. -/
def Interval.around (m : Nat) (q : Int) : Interval where
  low := .ofBinary (4 * m - if m = Dyadic.hiddenBit ∧ -1074 < q then 1 else 2) (q - 2)
  high := .ofBinary (4 * m + 2) (q - 2)
  closed := m % 2 = 0

/-- Whether `n * 10 ^ e` lies in the interval. -/
def Interval.contains (i : Interval) (n : Nat) (e : Int) : Bool :=
  let low := (i.low.scaleTen (-e)).compareNat n
  let high := (i.high.scaleTen (-e)).compareNat n
  (low = .lt || (i.closed && low = .eq)) && (high = .gt || (i.closed && high = .eq))

/-- The least `p` with `value < 10 ^ p` among `count` integers from `-330` on. -/
def pointAmong (count : Nat) (value : Fraction) : Int :=
  match (List.range count).find? fun i : Nat => (value.scaleTen (330 - (i : Int))).floor = 0 with
  | some i => (i : Int) - 330
  | none => 0

/-- The least `p` with `value < 10 ^ p`, for a positive double. -/
def pointOf (value : Fraction) : Int :=
  pointAmong 650 value

/-- The nearest of the grid points `n * 10 ^ e` and `(n + 1) * 10 ^ e` that lie in the interval,
where `n * 10 ^ e` is the last grid point that is not above the value. -/
def nearestIn (tie : Tie) (i : Interval) (value : Fraction) (e : Int) : Option Nat :=
  let scaled := value.scaleTen (-e)
  let n := scaled.floor
  let upper :=
    match compare (2 * scaled.num) ((2 * n + 1) * scaled.den) with
    | .lt => false
    | .gt => true
    | .eq => match tie with
      | .up => true
      | .even => n % 2 = 1
  match i.contains n e, i.contains (n + 1) e with
  | true, true => some (if upper then n + 1 else n)
  | true, false => some n
  | false, true => some (n + 1)
  | false, false => none

/-- Drops the zeros at the end. -/
def trimZeros (cs : List Char) : List Char :=
  (cs.reverse.dropWhile (· = '0')).reverse

/-- The shortest decimal of the double `m * 2 ^ q` with at most `last` digits and the decimal
point at `point`, the nearest of that length. -/
def shortestAmong (last : Nat) (point : Int) (tie : Tie) (m : Nat) (q : Int) : Digits :=
  let value := Fraction.ofBinary m q
  let interval := Interval.around m q
  match (List.range last).findSome? fun i : Nat =>
      (nearestIn tie interval value (point - (i + 1 : Nat))).map fun n => (i + 1, n) with
  | some (count, n) =>
      let digits := (Nat.repr n).toList
      ⟨trimZeros digits, point + ((digits.length : Int) - count)⟩
  | none => ⟨[], 0⟩

/-- The shortest decimal of the double `m * 2 ^ q` with `0 < m`. -/
def shortest (tie : Tie) (m : Nat) (q : Int) : Digits :=
  shortestAmong 17 (pointOf (.ofBinary m q)) tie m q

end Captioning.Decimal
