import Captioning.Decimal.Shortest

/-!
# Decimal numerals

A numeral is a number as it is written: a sign, digits, perhaps a fraction and an exponent.
A layout fixes how the shortest digits of a double become a numeral.
-/

namespace Captioning.Decimal

/-- A written power of ten. -/
structure Exponent where
  negative : Bool
  digits : List Char
  deriving DecidableEq

/-- A written decimal number. -/
structure Numeral where
  negative : Bool
  whole : List Char
  fraction : Option (List Char)
  exponent : Option Exponent
  deriving DecidableEq

/-- Whether `c` is one of the ten decimal digits. -/
def isDigit (c : Char) : Bool :=
  '0' ≤ c && c ≤ '9'

/-- The number that a digit stands for. -/
def digitValue (c : Char) : Nat :=
  c.toNat - '0'.toNat

/-- The number that a row of digits stands for. -/
def digitsValue (cs : List Char) : Nat :=
  cs.foldl (fun n c => 10 * n + digitValue c) 0

namespace Numeral

/-- The numeral of a natural number. -/
def ofNat (n : Nat) : Numeral :=
  ⟨false, (Nat.repr n).toList, none, none⟩

/-- The numeral of an integer. -/
def ofInt (n : Int) : Numeral :=
  ⟨decide (n < 0), (Nat.repr n.natAbs).toList, none, none⟩

/-- The characters of an exponent, from its letter on.  Its sign is always written. -/
def exponentChars : Option Exponent → List Char
  | none => []
  | some e => 'e' :: (if e.negative then '-' else '+') :: e.digits

/-- The characters of a numeral. -/
def chars (n : Numeral) : List Char :=
  (if n.negative then ['-'] else []) ++ n.whole ++
    (match n.fraction with
      | none => []
      | some f => '.' :: f) ++
    exponentChars n.exponent

/-- The text of a numeral. -/
def render (n : Numeral) : String :=
  String.ofList n.chars

end Numeral

/-- How the digits of a double are laid out. -/
structure NumeralLayout where
  /-- Which of two equally near decimals is written. -/
  tie : Tie
  /-- Numbers below `10 ^ p` for this `p` are written with an exponent; `none` for never. -/
  leastPoint : Option Int
  /-- Numbers from `10 ^ p` on for this `p` are written with an exponent; `none` for never. -/
  greatestPoint : Option Int
  /-- Whether a number without a fraction ends in `.0` when it has no exponent. -/
  pointZero : Bool

namespace NumeralLayout

/-- Whether a number with its decimal point at `point` is written without an exponent. -/
def isPositional (l : NumeralLayout) (point : Int) : Bool :=
  (l.leastPoint.all fun p => p < point) && (l.greatestPoint.all fun p => point ≤ p)

/-- The fraction of a number that has none. -/
def noFraction (l : NumeralLayout) : Option (List Char) :=
  if l.pointZero then some ['0'] else none

/-- The digits `d₁d₂…dₙ` with the decimal point at `point`, without an exponent. -/
def positional (l : NumeralLayout) (negative : Bool) (d : Digits) : Numeral :=
  if d.point ≤ 0 then
    ⟨negative, ['0'], some (List.replicate (-d.point).toNat '0' ++ d.digits), none⟩
  else if d.point < d.digits.length then
    ⟨negative, d.digits.take d.point.toNat, some (d.digits.drop d.point.toNat), none⟩
  else
    ⟨negative, d.digits ++ List.replicate (d.point.toNat - d.digits.length) '0',
      l.noFraction, none⟩

/-- The digits with one of them before the point and a power of ten after them. -/
def scientific (negative : Bool) (d : Digits) : Numeral :=
  let power := d.point - 1
  ⟨negative, d.digits.take 1, if d.digits.length ≤ 1 then none else some (d.digits.drop 1),
    some ⟨decide (power < 0), (Nat.repr power.natAbs).toList⟩⟩

/-- The numeral of a finite number. -/
def numeral (l : NumeralLayout) (x : Dyadic) : Numeral :=
  if x.mantissa = 0 then ⟨x.negative, ['0'], l.noFraction, none⟩
  else
    let d := shortest l.tie x.mantissa x.exponent
    if l.isPositional d.point then l.positional x.negative d else scientific x.negative d

/-- The numeral of a double; infinities and not-a-number have none. -/
def numeral? (l : NumeralLayout) (x : Float) : Option Numeral :=
  (Dyadic.ofFloat? x).map l.numeral

end NumeralLayout

end Captioning.Decimal
