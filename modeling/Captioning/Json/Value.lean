import Captioning.Decimal.Numeral

/-!
# JSON values and how they are written

A value keeps its numbers as they are written, so that a reader decides what a number means.
A string is `none` when one of its escapes names half of a surrogate pair alone: such a value
is well formed, but no text.
-/

namespace Captioning

open Decimal

/-- A JSON value. -/
inductive Json where
  | null
  | bool (b : Bool)
  | number (n : Numeral)
  | text (s : Option String)
  | array (items : List Json)
  | object (members : List (Option String × Json))

namespace Json

/-- The string of a text. -/
def ofString (s : String) : Json :=
  .text (some s)

/-- The number of a natural number. -/
def ofNat (n : Nat) : Json :=
  .number (.ofNat n)

/-- The number of an integer. -/
def ofInt (n : Int) : Json :=
  .number (.ofInt n)

/-- Doubles are written with the fewest digits that read back and a fraction, those from
`1e16` on and below `1e-5` with an exponent.  Of two equally near decimals the even one is
written. -/
def doubleLayout : NumeralLayout where
  tie := .even
  leastPoint := some (-5)
  greatestPoint := some 16
  pointZero := true

/-- The number of a double; infinities and not-a-number are written as null. -/
def ofDouble (x : Float) : Json :=
  match doubleLayout.numeral? x with
  | some n => .number n
  | none => .null

/-- A value that may be absent; absence is written as null. -/
def ofOption {α : Type} (f : α → Json) : Option α → Json
  | some a => f a
  | none => .null

/-- An object with the given fields, in that order. -/
def record (fields : List (String × Json)) : Json :=
  .object (fields.map fun (name, value) => (some name, value))

/-- A hexadecimal digit in lower case. -/
def hexDigit (n : Nat) : Char :=
  Nat.digitChar n

/-- The characters that stand for `c` between quotes.  Quotes, backslashes and control
characters are escaped, by a letter where there is one. -/
def escapeChar (c : Char) : List Char :=
  if c = '"' then ['\\', '"']
  else if c = '\\' then ['\\', '\\']
  else if c = '\x08' then ['\\', 'b']
  else if c = '\x0c' then ['\\', 'f']
  else if c = '\n' then ['\\', 'n']
  else if c = '\r' then ['\\', 'r']
  else if c = '\t' then ['\\', 't']
  else if c.toNat < 32 then ['\\', 'u', '0', '0', hexDigit (c.toNat / 16), hexDigit (c.toNat % 16)]
  else [c]

/-- A quoted text. -/
def quoted (s : List Char) : List Char :=
  '"' :: s.flatMap escapeChar ++ ['"']

/-- The written form of a string value; what is no text has no characters. -/
def textChars (s : Option String) : List Char :=
  quoted (s.getD "").toList

/-- The parts with `separator` between each two. -/
def separated (separator : List Char) : List (List Char) → List Char
  | [] => []
  | [part] => part
  | part :: parts => part ++ separator ++ separated separator parts

mutual

/-- The characters of a value, without blanks. -/
def compactChars : Json → List Char
  | .null => ['n', 'u', 'l', 'l']
  | .bool true => ['t', 'r', 'u', 'e']
  | .bool false => ['f', 'a', 'l', 's', 'e']
  | .number n => n.chars
  | .text s => textChars s
  | .array items => '[' :: separated [','] (compactItems items) ++ [']']
  | .object members => '\x7b' :: separated [','] (compactMembers members) ++ ['\x7d']

/-- The characters of each value of a list. -/
def compactItems : List Json → List (List Char)
  | [] => []
  | item :: items => compactChars item :: compactItems items

/-- The characters of each member of an object. -/
def compactMembers : List (Option String × Json) → List (List Char)
  | [] => []
  | (name, value) :: members =>
      (textChars name ++ ':' :: compactChars value) :: compactMembers members

end

/-- A line break followed by two blanks for each level. -/
def newline (level : Nat) : List Char :=
  '\n' :: List.replicate (2 * level) ' '

/-- Parts on lines of their own, one level below `level`, between brackets.  Without parts the
brackets stand together. -/
def block (level : Nat) (left right : Char) (parts : List (List Char)) : List Char :=
  if parts.isEmpty then [left, right]
  else
    left :: newline (level + 1) ++ separated (',' :: newline (level + 1)) parts ++
      newline level ++ [right]

mutual

/-- The characters of a value over several lines, inside `level` brackets. -/
def prettyChars (level : Nat) : Json → List Char
  | .array items => block level '[' ']' (prettyItems (level + 1) items)
  | .object members => block level '\x7b' '\x7d' (prettyMembers (level + 1) members)
  | .null => ['n', 'u', 'l', 'l']
  | .bool true => ['t', 'r', 'u', 'e']
  | .bool false => ['f', 'a', 'l', 's', 'e']
  | .number n => n.chars
  | .text s => textChars s

/-- The characters of each value of a list. -/
def prettyItems (level : Nat) : List Json → List (List Char)
  | [] => []
  | item :: items => prettyChars level item :: prettyItems level items

/-- The characters of each member of an object. -/
def prettyMembers (level : Nat) : List (Option String × Json) → List (List Char)
  | [] => []
  | (name, value) :: members =>
      (textChars name ++ ':' :: ' ' :: prettyChars level value) :: prettyMembers level members

end

/-- The text of a value without blanks. -/
def compact (j : Json) : String :=
  String.ofList j.compactChars

/-- The text of a value over several lines, two blanks for each level. -/
def pretty (j : Json) : String :=
  String.ofList (j.prettyChars 0)

end Json

end Captioning
