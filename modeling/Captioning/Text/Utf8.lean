/-!
# Repair of UTF-8

Captions arrive as bytes that may be damaged.  The bytes are cut into pieces: a well-formed
character, or a longest run of bytes that begins one and does not complete it.  A byte that can
begin no character is a run of its own.
-/

namespace Captioning.Utf8

/-- A range of bytes, both ends included. -/
structure ByteRange where
  low : UInt8
  high : UInt8

/-- Whether a byte lies in the range. -/
def ByteRange.contains (r : ByteRange) (b : UInt8) : Bool :=
  r.low ≤ b && b ≤ r.high

/-- The bytes that continue a character. -/
def continuation : ByteRange :=
  ⟨0x80, 0xBF⟩

/-- The ranges of the bytes that must follow a first byte; `none` for a byte that begins no
character.  The narrower second ranges keep out overlong forms, surrogates and numbers above
the last character. -/
def followers? (b : UInt8) : Option (List ByteRange) :=
  if b < 0x80 then some []
  else if b < 0xC2 then none
  else if b < 0xE0 then some [continuation]
  else if b = 0xE0 then some [⟨0xA0, 0xBF⟩, continuation]
  else if b = 0xED then some [⟨0x80, 0x9F⟩, continuation]
  else if b < 0xF0 then some [continuation, continuation]
  else if b = 0xF0 then some [⟨0x90, 0xBF⟩, continuation, continuation]
  else if b < 0xF4 then some [continuation, continuation, continuation]
  else if b = 0xF4 then some [⟨0x80, 0x8F⟩, continuation, continuation]
  else none

/-- How many of the bytes lie in the ranges, one after the other, before one does not. -/
def matching : List ByteRange → List UInt8 → Nat
  | r :: rs, b :: bs => if r.contains b then matching rs bs + 1 else 0
  | _, _ => 0

/-- The part of the number of a character that its first byte holds. -/
def firstBits (b : UInt8) : Nat :=
  let n := b.toNat
  if n < 0x80 then n
  else if n < 0xE0 then n - 0xC0
  else if n < 0xF0 then n - 0xE0
  else n - 0xF0

/-- The character of a first byte and the bytes that continue it. -/
def charOf (b : UInt8) (bs : List UInt8) : Char :=
  Char.ofNat (bs.foldl (fun n c => 64 * n + (c.toNat - 0x80)) (firstBits b))

/-- A piece of a sequence of bytes. -/
inductive Piece where
  | char (c : Char)
  | broken
  deriving DecidableEq

/-- The pieces of a sequence of bytes, from left to right. -/
def pieces : List UInt8 → List Piece
  | [] => []
  | b :: bs =>
      match followers? b with
      | none => .broken :: pieces bs
      | some ranges =>
          let count := matching ranges bs
          let piece := if count = ranges.length then .char (charOf b (bs.take count)) else .broken
          piece :: pieces (bs.drop count)
termination_by bytes => bytes.length
decreasing_by all_goals simp only [List.length_cons, List.length_drop]; omega

/-- What stands for a broken piece. -/
def placeholder : Char :=
  '*'

/-- The character shown for a piece. -/
def Piece.shown : Piece → Char
  | .char c => c
  | .broken => placeholder

/-- The characters of a sequence of bytes, each broken piece replaced by a placeholder. -/
def repair (bytes : List UInt8) : List Char :=
  (pieces bytes).map Piece.shown

/-- Whether the bytes are well-formed characters throughout. -/
def isValid (bytes : List UInt8) : Bool :=
  (pieces bytes).all (· ≠ .broken)

/-- The bytes of a text. -/
def encode (s : String) : List UInt8 :=
  s.toUTF8.data.toList

end Captioning.Utf8
