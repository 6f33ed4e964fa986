import Captioning.Decimal.Numeral

/-!
# Reading decimals

Texts that stand for numbers: the double nearest to a written number, in the grammar of a font size,
and whole numbers below a bound.
-/

namespace Captioning.Decimal

/-- The double nearest to `n * 10 ^ e`.  Numbers far outside the range of doubles are settled
by their magnitude, so no large power is computed for them. -/
def nearestDouble (n : Nat) (e : Int) : Float :=
  let magnitude := ((Nat.repr n).length : Int) + e
  if n = 0 ∨ magnitude < -400 then 0.0
  else if 400 < magnitude then 1.0 / 0.0
  else if 0 ≤ e then Float.ofScientific n false e.toNat
  else Float.ofScientific n true (-e).toNat

/-- Takes a sign off the front; the first part tells whether it was a minus. -/
def splitSign : List Char → Bool × List Char
  | '+' :: r => (false, r)
  | '-' :: r => (true, r)
  | cs => (false, cs)

/-- The lower-case form of an ASCII letter. -/
def lowerAscii (c : Char) : Char :=
  if 'A' ≤ c ∧ c ≤ 'Z' then Char.ofNat (c.toNat + 32) else c

/-- An exponent: nothing, or a letter `e`, a sign perhaps, and at least one digit. -/
def readExponent? : List Char → Option Int
  | [] => some 0
  | c :: r =>
      let (negative, digits) := splitSign r
      if lowerAscii c = 'e' ∧ digits ≠ [] ∧ digits.all isDigit then
        some (if negative then -(digitsValue digits : Int) else digitsValue digits)
      else none

/-- The double nearest to an unsigned number: digits with or without a point, of which there is
at least one, and an exponent perhaps. -/
def readMagnitude? (cs : List Char) : Option Float :=
  let whole := cs.takeWhile isDigit
  let afterWhole := cs.dropWhile isDigit
  let (fraction, afterFraction) :=
    match afterWhole with
    | '.' :: r => (r.takeWhile isDigit, r.dropWhile isDigit)
    | _ => ([], afterWhole)
  if whole = [] ∧ fraction = [] then none
  else (readExponent? afterFraction).map fun e =>
    nearestDouble (digitsValue (whole ++ fraction)) (e - fraction.length)

/-- The double that a text names: a number, an infinity or not-a-number, after a sign perhaps.
Letters may have either case. -/
def readDouble? (text : List Char) : Option Float :=
  let (negative, cs) := splitSign text
  let magnitude? :=
    let word := String.ofList (cs.map lowerAscii)
    if word = "inf" ∨ word = "infinity" then some (1.0 / 0.0)
    else if word = "nan" then some (0.0 / 0.0)
    else readMagnitude? cs
  magnitude?.map fun x => if negative then -x else x

/-- A whole number below `bound`: decimal digits after a plus sign perhaps. -/
def readCount? (bound : Nat) (text : List Char) : Option Nat :=
  let digits :=
    match text with
    | '+' :: r => r
    | cs => cs
  if digits ≠ [] ∧ digits.all isDigit ∧ digitsValue digits < bound then some (digitsValue digits)
  else none

end Captioning.Decimal
