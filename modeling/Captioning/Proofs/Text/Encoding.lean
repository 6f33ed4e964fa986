import Captioning.Text.Utf8
import Mathlib.Data.List.Forall2

/-!
# Encoded text needs no repair

The bytes of a character are one piece, whatever follows them.  So the bytes of a text are valid,
and repair gives the text back.

## Strategy

By the length of the encoding.  The first byte determines how many bytes follow and, where an
overlong form, a surrogate or a number above the last character threatens, a narrower range for
the second one: it is kept because the character is none of these.
-/

namespace Captioning.Utf8

variable {b : UInt8} {bs cs : List UInt8} {ranges : List ByteRange} {n v : Nat}

/-! ## Pieces that are complete -/

/-- Bytes that lie in the ranges, one after the other. -/
def Fills (ranges : List ByteRange) (cs : List UInt8) : Prop :=
  List.Forall₂ (fun r c => r.contains c = true) ranges cs

theorem matching_of_fills (h : Fills ranges cs) (bs : List UInt8) :
    matching ranges (cs ++ bs) = ranges.length := by
  induction h with
  | nil => rfl
  | cons hc _ ih => rw [List.cons_append, matching, if_pos hc, ih, List.length_cons]

/-- A first byte with the bytes that must follow it is one piece. -/
theorem pieces_of_fills (hfollowers : followers? b = some ranges) (h : Fills ranges cs)
    (bs : List UInt8) : pieces (b :: (cs ++ bs)) = .char (charOf b cs) :: pieces bs := by
  have hlength : ranges.length = cs.length := List.Forall₂.length_eq h
  rw [pieces, hfollowers]
  dsimp only
  rw [if_pos (matching_of_fills h bs), matching_of_fills h bs, hlength, List.take_left,
    List.drop_left]

/-! ## Bytes as numbers -/

theorem contains_iff (r : ByteRange) (c : UInt8) :
    r.contains c = true ↔ r.low.toNat ≤ c.toNat ∧ c.toNat ≤ r.high.toNat := by
  rw [ByteRange.contains, Bool.and_eq_true, decide_eq_true_eq, decide_eq_true_eq,
    UInt8.le_iff_toNat_le, UInt8.le_iff_toNat_le]

theorem toNat_byte (h : n < 256) : (UInt8.ofNat n).toNat = n :=
  UInt8.toNat_ofNat_of_lt' h

theorem contains_byte {low high : UInt8} (h : n < 256) (hlow : low.toNat ≤ n)
    (hhigh : n ≤ high.toNat) : ByteRange.contains ⟨low, high⟩ (UInt8.ofNat n) = true := by
  rw [contains_iff, toNat_byte h]
  exact ⟨hlow, hhigh⟩

theorem contains_continuation (v : Nat) :
    continuation.contains (UInt8.ofNat (v % 64 + 0x80)) = true :=
  contains_byte (by omega) (Nat.le_add_left _ _) (Nat.add_le_add_right (by omega) 0x80)

/-- What must follow a first byte, by its number. -/
theorem followers?_byte (h : n < 256) :
    followers? (UInt8.ofNat n) =
      if n < 0x80 then some []
      else if n < 0xC2 then none
      else if n < 0xE0 then some [continuation]
      else if n = 0xE0 then some [⟨0xA0, 0xBF⟩, continuation]
      else if n = 0xED then some [⟨0x80, 0x9F⟩, continuation]
      else if n < 0xF0 then some [continuation, continuation]
      else if n = 0xF0 then some [⟨0x90, 0xBF⟩, continuation, continuation]
      else if n < 0xF4 then some [continuation, continuation, continuation]
      else if n = 0xF4 then some [⟨0x80, 0x8F⟩, continuation, continuation]
      else none := by
  simp only [followers?, UInt8.lt_iff_toNat_lt, ← UInt8.toNat_inj, toNat_byte h]
  rfl

/-- The number of a character, from its first byte and the bytes after it. -/
theorem charOf_byte (h : n < 256) (cs : List UInt8) :
    charOf (UInt8.ofNat n) cs = Char.ofNat (cs.foldl (fun k c => 64 * k + (c.toNat - 0x80))
      (if n < 0x80 then n else if n < 0xE0 then n - 0xC0
        else if n < 0xF0 then n - 0xE0 else n - 0xF0)) := by
  simp only [charOf, firstBits, toNat_byte h]

/-! ## Encoded characters -/

theorem pieces_one (h : v < 0x80) (bs : List UInt8) :
    pieces (UInt8.ofNat v :: bs) = .char (Char.ofNat v) :: pieces bs := by
  have hfollowers : followers? (UInt8.ofNat v) = some [] := by
    rw [followers?_byte (by omega), if_pos h]
  rw [← List.nil_append bs, pieces_of_fills hfollowers .nil, charOf_byte (by omega), if_pos h]
  rfl

theorem pieces_two (hlow : 0x80 ≤ v) (hhigh : v < 0x800) (bs : List UInt8) :
    pieces (UInt8.ofNat (v / 64 % 0x20 + 0xC0) :: ([UInt8.ofNat (v % 64 + 0x80)] ++ bs)) =
      .char (Char.ofNat v) :: pieces bs := by
  have hfollowers : followers? (UInt8.ofNat (v / 64 % 0x20 + 0xC0)) = some [continuation] := by
    rw [followers?_byte (by omega), if_neg (by omega), if_neg (by omega), if_pos (by omega)]
  have hnumber : 64 * (v / 64 % 0x20 + 0xC0 - 0xC0) + (v % 64 + 0x80 - 0x80) = v := by omega
  rw [pieces_of_fills hfollowers (.cons (contains_continuation v) .nil), charOf_byte (by omega),
    if_neg (by omega), if_pos (by omega)]
  simp only [List.foldl_cons, List.foldl_nil, toNat_byte (n := v % 64 + 0x80) (by omega), hnumber]

theorem pieces_three (hlow : 0x800 ≤ v) (hhigh : v < 0x10000)
    (hscalar : v < 0xD800 ∨ 0xDFFF < v) (bs : List UInt8) :
    pieces (UInt8.ofNat (v / 4096 % 0x10 + 0xE0) ::
        ([UInt8.ofNat (v / 64 % 64 + 0x80), UInt8.ofNat (v % 64 + 0x80)] ++ bs)) =
      .char (Char.ofNat v) :: pieces bs := by
  obtain ⟨r, hfollowers, hr⟩ : ∃ r,
      followers? (UInt8.ofNat (v / 4096 % 0x10 + 0xE0)) = some [r, continuation] ∧
        r.contains (UInt8.ofNat (v / 64 % 64 + 0x80)) = true := by
    rw [followers?_byte (by omega), if_neg (by omega), if_neg (by omega), if_neg (by omega)]
    by_cases hfirst : v / 4096 % 0x10 + 0xE0 = 0xE0
    · exact ⟨_, if_pos hfirst,
        contains_byte (by omega) (by change 0xA0 ≤ _; omega) (by change _ ≤ 0xBF; omega)⟩
    rw [if_neg hfirst]
    by_cases hsurrogate : v / 4096 % 0x10 + 0xE0 = 0xED
    · exact ⟨_, if_pos hsurrogate,
        contains_byte (by omega) (by change 0x80 ≤ _; omega) (by change _ ≤ 0x9F; omega)⟩
    · rw [if_neg hsurrogate, if_pos (by omega)]
      exact ⟨_, rfl, contains_continuation (v / 64)⟩
  have hnumber : 64 * (64 * (v / 4096 % 0x10 + 0xE0 - 0xE0) + (v / 64 % 64 + 0x80 - 0x80)) +
      (v % 64 + 0x80 - 0x80) = v := by
    omega
  rw [pieces_of_fills hfollowers (.cons hr (.cons (contains_continuation v) .nil)),
    charOf_byte (by omega), if_neg (by omega), if_neg (by omega), if_pos (by omega)]
  simp only [List.foldl_cons, List.foldl_nil, toNat_byte (n := v / 64 % 64 + 0x80) (by omega),
    toNat_byte (n := v % 64 + 0x80) (by omega), hnumber]

theorem pieces_four (hlow : 0x10000 ≤ v) (hhigh : v < 0x110000) (bs : List UInt8) :
    pieces (UInt8.ofNat (v / 262144 % 0x08 + 0xF0) ::
        ([UInt8.ofNat (v / 4096 % 64 + 0x80), UInt8.ofNat (v / 64 % 64 + 0x80),
          UInt8.ofNat (v % 64 + 0x80)] ++ bs)) =
      .char (Char.ofNat v) :: pieces bs := by
  obtain ⟨r, hfollowers, hr⟩ : ∃ r,
      followers? (UInt8.ofNat (v / 262144 % 0x08 + 0xF0)) =
        some [r, continuation, continuation] ∧
        r.contains (UInt8.ofNat (v / 4096 % 64 + 0x80)) = true := by
    rw [followers?_byte (by omega), if_neg (by omega), if_neg (by omega), if_neg (by omega),
      if_neg (by omega), if_neg (by omega), if_neg (by omega)]
    by_cases hfirst : v / 262144 % 0x08 + 0xF0 = 0xF0
    · exact ⟨_, if_pos hfirst,
        contains_byte (by omega) (by change 0x90 ≤ _; omega) (by change _ ≤ 0xBF; omega)⟩
    rw [if_neg hfirst]
    by_cases hlast : v / 262144 % 0x08 + 0xF0 < 0xF4
    · exact ⟨_, if_pos hlast, contains_continuation (v / 4096)⟩
    · rw [if_neg hlast, if_pos (by omega)]
      exact ⟨_, rfl,
        contains_byte (by omega) (by change 0x80 ≤ _; omega) (by change _ ≤ 0x8F; omega)⟩
  have hnumber : 64 * (64 * (64 * (v / 262144 % 0x08 + 0xF0 - 0xF0) +
      (v / 4096 % 64 + 0x80 - 0x80)) + (v / 64 % 64 + 0x80 - 0x80)) +
      (v % 64 + 0x80 - 0x80) = v := by
    omega
  rw [pieces_of_fills hfollowers
      (.cons hr (.cons (contains_continuation (v / 64)) (.cons (contains_continuation v) .nil))),
    charOf_byte (by omega), if_neg (by omega), if_neg (by omega), if_neg (by omega)]
  simp only [List.foldl_cons, List.foldl_nil, toNat_byte (n := v / 4096 % 64 + 0x80) (by omega),
    toNat_byte (n := v / 64 % 64 + 0x80) (by omega), toNat_byte (n := v % 64 + 0x80) (by omega),
    hnumber]

/-- The bytes of a character are one piece. -/
theorem pieces_encodeChar_append (c : Char) (bs : List UInt8) :
    pieces (String.utf8EncodeChar c ++ bs) = .char c :: pieces bs := by
  obtain ⟨v, hv⟩ : ∃ v, v = c.val.toNat := ⟨_, rfl⟩
  have hscalar : v < 0xD800 ∨ 0xDFFF < v ∧ v < 0x110000 := hv ▸ c.valid
  have hchar : Char.ofNat v = c := by
    rw [hv]
    exact Char.ofNat_toNat c
  unfold String.utf8EncodeChar
  dsimp only
  rw [← hv, ← hchar]
  split
  next hone => exact pieces_one (by omega) bs
  split
  next htwo => exact pieces_two (by omega) (by omega) bs
  split
  next hthree => exact pieces_three (by omega) (by omega) (by omega) bs
  next hfour => exact pieces_four (by omega) (by omega) bs

/-! ## Encoded texts -/

theorem encode_eq (s : String) : encode s = s.toList.flatMap String.utf8EncodeChar := by
  have hbytes : s.toUTF8 = (s.toList.flatMap String.utf8EncodeChar).toByteArray :=
    String.utf8Encode_toList.symm
  rw [encode, hbytes]
  simp

/-- The pieces of an encoded text are its characters, whatever follows it. -/
theorem pieces_encode_append (s : String) (bs : List UInt8) :
    pieces (encode s ++ bs) = s.toList.map .char ++ pieces bs := by
  rw [encode_eq]
  induction s.toList with
  | nil => rfl
  | cons c cs ih =>
      rw [List.flatMap_cons, List.append_assoc, pieces_encodeChar_append, ih, List.map_cons,
        List.cons_append]

theorem pieces_nil : pieces [] = [] := by
  rw [pieces]

theorem pieces_encode (s : String) : pieces (encode s) = s.toList.map .char := by
  rw [← List.append_nil (encode s), pieces_encode_append, pieces_nil, List.append_nil]

/-- An encoded text is valid. -/
theorem isValid_encode (s : String) : isValid (encode s) = true := by
  rw [isValid, pieces_encode, List.all_map, List.all_eq_true]
  exact fun c _ => decide_eq_true (p := Piece.char c ≠ .broken) fun h => nomatch h

/-- The repair of an encoded text is the text. -/
theorem repair_encode (s : String) : repair (encode s) = s.toList := by
  rw [repair, pieces_encode, List.map_map]
  exact List.map_id _

end Captioning.Utf8
