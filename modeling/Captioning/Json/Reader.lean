import Captioning.Json.Value

/-!
# Reading JSON

Each reader takes characters off the front and returns what it read together with the rest.
The recursion over nested values is bounded by a number computed from the length of the text,
since every step but the entry into a list takes at least one character.
-/

namespace Captioning.Json

open Decimal

/-- The four characters that may stand between tokens. -/
def isBlank (c : Char) : Bool :=
  c = ' ' || c = '\n' || c = '\t' || c = '\r'

/-- Drops blanks from the front. -/
def skipBlanks (cs : List Char) : List Char :=
  cs.dropWhile isBlank

/-- A part of a string: a character, or a sixteen-bit unit written as four hexadecimal digits. -/
inductive StringPart where
  | char (c : Char)
  | unit (n : Nat)

/-- The value of a hexadecimal digit. -/
def hexValue? (c : Char) : Option Nat :=
  if isDigit c then some (digitValue c)
  else if 'a' ≤ c ∧ c ≤ 'f' then some (c.toNat - 'a'.toNat + 10)
  else if 'A' ≤ c ∧ c ≤ 'F' then some (c.toNat - 'A'.toNat + 10)
  else none

/-- The unit that four hexadecimal digits denote. -/
def unit? (a b c d : Char) : Option Nat := do
  return 4096 * (← hexValue? a) + 256 * (← hexValue? b) + 16 * (← hexValue? c) + (← hexValue? d)

/-- The character that a backslash and one other character stand for. -/
def escaped? (c : Char) : Option Char :=
  if c = '"' ∨ c = '\\' ∨ c = '/' then some c
  else if c = 'b' then some '\x08'
  else if c = 'f' then some '\x0c'
  else if c = 'n' then some '\n'
  else if c = 'r' then some '\r'
  else if c = 't' then some '\t'
  else none

/-- The parts of a string up to its closing quote.  Control characters must be escaped. -/
def readParts? : List Char → Option (List StringPart × List Char)
  | [] => none
  | '"' :: r => some ([], r)
  | '\\' :: 'u' :: a :: b :: c :: d :: r => do
      let n ← unit? a b c d
      let (parts, rest) ← readParts? r
      return (.unit n :: parts, rest)
  | '\\' :: e :: r => do
      let c ← escaped? e
      let (parts, rest) ← readParts? r
      return (.char c :: parts, rest)
  | c :: r =>
      if c.toNat < 32 then none
      else do
        let (parts, rest) ← readParts? r
        return (.char c :: parts, rest)

/-- Whether a unit is the first half of a surrogate pair. -/
def isHighHalf (n : Nat) : Bool :=
  0xD800 ≤ n && n < 0xDC00

/-- Whether a unit is the second half of a surrogate pair. -/
def isLowHalf (n : Nat) : Bool :=
  0xDC00 ≤ n && n < 0xE000

/-- The characters that parts denote; half of a surrogate pair alone denotes none. -/
def charsOf? : List StringPart → Option (List Char)
  | [] => some []
  | .char c :: r => (charsOf? r).map (c :: ·)
  | .unit n :: .unit m :: r =>
      if isHighHalf n then
        if isLowHalf m then
          (charsOf? r).map (Char.ofNat (0x10000 + (n - 0xD800) * 1024 + (m - 0xDC00)) :: ·)
        else none
      else if isLowHalf n then none
      else (charsOf? (.unit m :: r)).map (Char.ofNat n :: ·)
  | .unit n :: r =>
      if isHighHalf n || isLowHalf n then none
      else (charsOf? r).map (Char.ofNat n :: ·)

/-- A string from after its opening quote on. -/
def readString? (cs : List Char) : Option (Option String × List Char) :=
  (readParts? cs).map fun (parts, rest) => ((charsOf? parts).map String.ofList, rest)

/-- The fraction of a number, if there is one: a point and at least one digit. -/
def readFraction? : List Char → Option (Option (List Char) × List Char)
  | '.' :: r =>
      let digits := r.takeWhile isDigit
      if digits = [] then none else some (some digits, r.dropWhile isDigit)
  | cs => some (none, cs)

/-- The exponent of a number after its letter: a sign perhaps and at least one digit. -/
def readPower? (cs : List Char) : Option (Option Exponent × List Char) :=
  let (negative, digits, rest) :=
    match cs with
    | '+' :: r => (false, r.takeWhile isDigit, r.dropWhile isDigit)
    | '-' :: r => (true, r.takeWhile isDigit, r.dropWhile isDigit)
    | r => (false, r.takeWhile isDigit, r.dropWhile isDigit)
  if digits = [] then none else some (some ⟨negative, digits⟩, rest)

/-- The exponent of a number, if there is one. -/
def readExponent? : List Char → Option (Option Exponent × List Char)
  | 'e' :: r => readPower? r
  | 'E' :: r => readPower? r
  | cs => some (none, cs)

/-- A number without its sign.  Only the number zero begins with a zero. -/
def readUnsigned? (negative : Bool) (cs : List Char) : Option (Numeral × List Char) := do
  let whole := cs.takeWhile isDigit
  if whole = [] ∨ (whole.head? = some '0' ∧ 1 < whole.length) then none
  else
    let (fraction, afterFraction) ← readFraction? (cs.dropWhile isDigit)
    let (exponent, rest) ← readExponent? afterFraction
    return (⟨negative, whole, fraction, exponent⟩, rest)

/-- A number. -/
def readNumber? : List Char → Option (Numeral × List Char)
  | '-' :: r => readUnsigned? true r
  | cs => readUnsigned? false cs

/-- A value that is neither a list nor an object. -/
def readScalar? : List Char → Option (Json × List Char)
  | 'n' :: 'u' :: 'l' :: 'l' :: r => some (.null, r)
  | 't' :: 'r' :: 'u' :: 'e' :: r => some (.bool true, r)
  | 'f' :: 'a' :: 'l' :: 's' :: 'e' :: r => some (.bool false, r)
  | '"' :: r => (readString? r).map fun (s, rest) => (.text s, rest)
  | cs => (readNumber? cs).map fun (n, rest) => (.number n, rest)

/-- The name of a member and the colon after it. -/
def readName? (cs : List Char) : Option (Option String × List Char) :=
  match skipBlanks cs with
  | '"' :: r => do
      let (name, rest) ← readString? r
      match skipBlanks rest with
      | ':' :: r' => some (name, r')
      | _ => none
  | _ => none

mutual

/-- A value, with blanks before it. -/
def readValue? : Nat → List Char → Option (Json × List Char)
  | 0, _ => none
  | bound + 1, cs =>
      match skipBlanks cs with
      | '[' :: r =>
          match skipBlanks r with
          | ']' :: rest => some (.array [], rest)
          | _ => (readItems? bound r).map fun (items, rest) => (.array items, rest)
      | '\x7b' :: r =>
          match skipBlanks r with
          | '\x7d' :: rest => some (.object [], rest)
          | _ => (readMembers? bound r).map fun (members, rest) => (.object members, rest)
      | r => readScalar? r

/-- The items of a list, of which there is at least one, and the closing bracket. -/
def readItems? : Nat → List Char → Option (List Json × List Char)
  | 0, _ => none
  | bound + 1, cs => do
      let (item, afterItem) ← readValue? bound cs
      match skipBlanks afterItem with
      | ',' :: r =>
          let (items, rest) ← readItems? bound r
          return (item :: items, rest)
      | ']' :: rest => return ([item], rest)
      | _ => none

/-- The members of an object, of which there is at least one, and the closing brace. -/
def readMembers? : Nat → List Char → Option (List (Option String × Json) × List Char)
  | 0, _ => none
  | bound + 1, cs => do
      let (name, afterName) ← readName? cs
      let (value, afterValue) ← readValue? bound afterName
      match skipBlanks afterValue with
      | ',' :: r =>
          let (members, rest) ← readMembers? bound r
          return ((name, value) :: members, rest)
      | '\x7d' :: rest => return ([(name, value)], rest)
      | _ => none

end

/-- The value that a text denotes.  Only blanks may stand around it. -/
def parse? (text : String) : Option Json :=
  let cs := text.toList
  match readValue? (2 * cs.length + 2) cs with
  | some (value, rest) => if skipBlanks rest = [] then some value else none
  | none => none

end Captioning.Json
