/-!
# Widths of numbers

Times, sizes, colours and the parts of a double are numbers of a fixed width.
-/

namespace Captioning

/-- The product of `n` twos. -/
def powerOfTwo (n : Nat) : Nat :=
  Nat.pow 2 n

/-- The product of `n` tens. -/
def powerOfTen (n : Nat) : Nat :=
  Nat.pow 10 n

/-- How many numbers have eight bits. -/
def byteCount : Nat :=
  256

/-- How many numbers have thirty-two bits. -/
def wordCount : Nat :=
  4294967296

/-- How many numbers have sixty-four bits. -/
def longCount : Nat :=
  18446744073709551616

/-- How many numbers of thirty-two bits with a sign are not negative. -/
def signedWordCount : Nat :=
  2147483648

/-- How many numbers of sixty-four bits with a sign are not negative. -/
def signedLongCount : Nat :=
  9223372036854775808

/-- A number that does not fit its width.  The call that computes it stops there, and never comes
to a result. -/
inductive Overflow where
  /-- A time of a scenario. -/
  | time
  /-- The end of a frame, where it is not known but estimated. -/
  | frameStop
  /-- The number of bytes of a frame. -/
  | frameSize
  /-- A side of a frame that is to be darkened, as a number of thirty-two bits with a sign. -/
  | frameSide
  /-- The number of bytes of an image. -/
  | imageSize
  deriving DecidableEq

/-- The widths are powers of two. -/
theorem counts_eq_powerOfTwo :
    byteCount = powerOfTwo 8 ∧ wordCount = powerOfTwo 32 ∧ longCount = powerOfTwo 64 ∧
      signedWordCount = powerOfTwo 31 ∧ signedLongCount = powerOfTwo 63 := by
  decide

end Captioning
