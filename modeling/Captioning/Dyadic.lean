import Captioning.Width

/-!
# Dyadic numbers

A finite binary floating-point number is `± mantissa * 2 ^ exponent`.  Reading it as such a
number makes rounding it to an integer exact arithmetic on naturals.
-/

namespace Captioning

/-- The number `mantissa * 2 ^ exponent`, negated when `negative` is set. -/
structure Dyadic where
  negative : Bool
  mantissa : Nat
  exponent : Int
  deriving DecidableEq

namespace Dyadic

/-- The first bit of the mantissa of a double, which is not stored. -/
def hiddenBit : Nat :=
  4503599627370496

/-- The exact value of a double; infinities and not-a-number have none. -/
def ofFloat? (x : Float) : Option Dyadic :=
  let bits : Nat := x.toBits.toNat
  let negative := decide (signedLongCount ≤ bits)
  let field : Nat := bits / hiddenBit % 2048
  let fraction : Nat := bits % hiddenBit
  if field = 2047 then none
  else if field = 0 then some ⟨negative, fraction, -1074⟩
  else some ⟨negative, fraction + hiddenBit, (field : Int) - 1075⟩

/-- The magnitude, cut toward zero. -/
def truncated (d : Dyadic) : Nat :=
  if 0 ≤ d.exponent then d.mantissa * powerOfTwo d.exponent.toNat
  else d.mantissa / powerOfTwo (-d.exponent).toNat

/-- The magnitude, rounded to the nearest integer; a half goes up. -/
def rounded (d : Dyadic) : Nat :=
  if 0 ≤ d.exponent then d.mantissa * powerOfTwo d.exponent.toNat
  else
    (2 * d.mantissa + powerOfTwo (-d.exponent).toNat) / powerOfTwo ((-d.exponent).toNat + 1)

end Dyadic

/-- The integer part of `x`, kept within `0 … last`.  Not-a-number counts as zero. -/
def truncateNat (last : Nat) (x : Float) : Nat :=
  match Dyadic.ofFloat? x with
  | some d => if d.negative then 0 else min d.truncated last
  | none => if x > 0 then last else 0

/-- The integer part of `x`, kept within `-last - 1 … last`.  Not-a-number counts as zero. -/
def truncateInt (last : Nat) (x : Float) : Int :=
  match Dyadic.ofFloat? x with
  | some d => if d.negative then max (-(d.truncated : Int)) (-last - 1) else min d.truncated last
  | none => if x > 0 then last else if x < 0 then -last - 1 else 0

/-- The integer nearest to `x`, as a double; a half goes away from zero.  What has no
fractional part is returned as it is. -/
def roundHalfAway (x : Float) : Float :=
  match Dyadic.ofFloat? x with
  | some d =>
      if 0 ≤ d.exponent then x
      else if d.negative then -(Float.ofNat d.rounded) else Float.ofNat d.rounded
  | none => x

/-- The double nearest to `n`, for `n` of at most sixty-four bits. -/
def countToFloat (n : Nat) : Float :=
  n.toUInt64.toFloat

end Captioning
