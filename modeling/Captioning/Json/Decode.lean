import Captioning.Json.Reader

/-!
# What JSON values mean

A value is read as a number of a given range, as a text, as one of a list of names, or as a record.
The fields of a record are given by name or in their order.
-/

namespace Captioning.Json

open Decimal

/-- The magnitude of a numeral without fraction and exponent. -/
def wholeNumber? (n : Numeral) : Option Nat :=
  if n.fraction = none ∧ n.exponent = none then some (digitsValue n.whole) else none

/-- A natural number below `bound`. -/
def toNat? (bound : Nat) : Json → Option Nat
  | .number n => do
      let magnitude ← wholeNumber? n
      if n.negative = false ∧ magnitude < bound then some magnitude else none
  | _ => none

/-- An integer from `-bound` up to but not including `bound`.  Zero with a minus sign is a
fractional number and therefore no integer. -/
def toInt? (bound : Nat) : Json → Option Int
  | .number n => do
      let magnitude ← wholeNumber? n
      if n.negative then
        if 0 < magnitude ∧ magnitude ≤ bound then some (-(magnitude : Int)) else none
      else if magnitude < bound then some magnitude else none
  | _ => none

/-- Appends digits to a number as long as it has at most sixty-four bits; the rest is returned. -/
def appendDigits (n : Nat) : List Char → Nat × List Char
  | [] => (n, [])
  | c :: cs =>
      let next := 10 * n + digitValue c
      if next < longCount then appendDigits next cs else (n, c :: cs)

/-- The double nearest to a power of ten. -/
def doubleOfTen (e : Nat) : Float :=
  Float.ofScientific 1 false e

/-- `x * 10 ^ e` in double arithmetic, by one multiplication or by divisions by at most
`10 ^ 308` each.  A number too large for a double has no answer. -/
def scaleByTen? (x : Float) (e : Int) : Option Float :=
  if e < -308 then
    if x == 0.0 then some x else scaleByTen? (x / doubleOfTen 308) (e + 308)
  else if e < 0 then some (x / doubleOfTen (-e).toNat)
  else if e ≤ 308 then
    let y := x * doubleOfTen e.toNat
    if y.isInf then none else some y
  else if x == 0.0 then some x
  else none
termination_by (-e).toNat

/-- The double of a numeral.  Its digits are read up to the last one that keeps the
significand within sixty-four bits, which is then scaled by a power of ten. -/
def doubleOf? (n : Numeral) : Option Float :=
  let (whole, droppedWhole) := appendDigits 0 n.whole
  let fraction := n.fraction.getD []
  let (significand, droppedFraction) := appendDigits whole fraction
  let shift : Int := (droppedWhole.length : Int) - (fraction.length - droppedFraction.length : Nat)
  let power := (n.exponent.map fun e => digitsValue e.digits).getD 0
  let downward := (n.exponent.map (·.negative)).getD false
  let magnitude? :=
    if signedWordCount ≤ power then
      if significand = 0 ∨ downward then some 0.0 else none
    else scaleByTen? (countToFloat significand) (shift + if downward then -(power : Int) else power)
  magnitude?.map fun x => if n.negative then -x else x

/-- A double. -/
def toDouble? : Json → Option Float
  | .number n => doubleOf? n
  | _ => none

/-- A text. -/
def toText? : Json → Option String
  | .text s => s
  | _ => none

/-- A truth value. -/
def toBool? : Json → Option Bool
  | .bool b => some b
  | _ => none

/-- A value that may be absent; null stands for absence. -/
def toOption? {α : Type} (read : Json → Option α) : Json → Option (Option α)
  | .null => some none
  | j => (read j).map some

/-- Each item of a list. -/
def toList? {α : Type} (read : Json → Option α) : Json → Option (List α)
  | .array items => items.mapM read
  | _ => none

/-- The value of a name in a table.  The name stands as a string, or as the only member of an
object with the value null. -/
def toName? {α : Type} (table : List (String × α)) : Json → Option α
  | .text (some s) => table.lookup s
  | .object [(some s, .null)] => table.lookup s
  | _ => none

/-- The fields of a record that were given, each at most once. -/
abbrev Fields := List (String × Json)

/-- The value of a field, or `absent` when it was not given. -/
def Fields.get? {α : Type} (fields : Fields) (name : String) (read : Json → Option α)
    (absent : Option α) : Option α :=
  match fields.lookup name with
  | some j => read j
  | none => absent

/-- Whether a record may have fields besides the declared ones. -/
inductive Strictness where
  | declaredOnly
  | anyOther
  deriving DecidableEq

/-- The declared fields among members.  A declared name must not come twice. -/
def fieldsOfMembers? (names : List String) (strictness : Strictness) :
    List (Option String × Json) → Option Fields
  | [] => some []
  | (none, _) :: _ => none
  | (some name, value) :: members => do
      let fields ← fieldsOfMembers? names strictness members
      if names.contains name then
        if (fields.lookup name).isSome then none else some ((name, value) :: fields)
      else if strictness = .anyOther then some fields
      else none

/-- The fields of a record, from an object or from a list of values in declaration order. -/
def toFields? (names : List String) (strictness : Strictness) : Json → Option Fields
  | .object members => fieldsOfMembers? names strictness members
  | .array items => if items.length ≤ names.length then some (names.zip items) else none
  | _ => none

end Captioning.Json
