import Captioning.Proofs.Text.Encoding

/-!
# Repair is exact

A decoder reads bytes from left to right, character by character.  Where no character stands it
reports a fault: the bytes that begin a character, as far as they go, or a single byte if not even
that one begins a character.  After a fault it goes on with the next byte.  Cut in this way, bytes
fall into characters and broken runs in one way only, which is the way of `Utf8.pieces`.

## Strategy

A first byte has a list of ranges for the bytes that must follow it.  Bytes that fill these ranges
are a character (`encodeChar_charOf`), and bytes that fill some of them begin one, because every
range holds a byte (`begins_cons_iff`).  Hence the bytes of a broken piece begin a character, or
are a single byte, and no further byte can be added to them.  There is only one such run at the
beginning of given bytes (`BrokenRun.unique`).
-/

namespace Captioning.Utf8

/-- The bytes begin a character, or are one. -/
def Begins (bytes : List UInt8) : Prop :=
  ∃ c, bytes <+: String.utf8EncodeChar c

/-- A run of bytes, of those that follow a character or a fault, that a decoder reports as one
fault.  If nothing comes after it, and it begins a character, the bytes have ended too early;
otherwise the byte after it is unexpected there. -/
structure BrokenRun (run after : List UInt8) : Prop where
  nonempty : run ≠ []
  /-- No character stands here. -/
  broken : ∀ c, ¬ String.utf8EncodeChar c <+: run ++ after
  begins : Begins run ∨ run.length = 1
  /-- No longer run begins a character. -/
  longest : ∀ longer, longer <+: run ++ after → Begins longer → longer.length ≤ run.length

/-- The first fault that a decoder finds: the text before it, the broken run, and what comes after
that. -/
structure FirstFault (bytes : List UInt8) (text : String) (run after : List UInt8) : Prop where
  bytes_eq : bytes = encode text ++ (run ++ after)
  /-- The text reaches as far as any text does. -/
  furthest : ∀ other, encode other <+: bytes → (encode other).length ≤ (encode text).length
  fault : BrokenRun run after

/-- Bytes are cut into characters and broken runs, from left to right. -/
inductive Cuts : List UInt8 → List Piece → Prop
  | nil : Cuts [] []
  | char (c : Char) {bytes : List UInt8} {cut : List Piece} (after : Cuts bytes cut) :
      Cuts (String.utf8EncodeChar c ++ bytes) (.char c :: cut)
  | broken {run bytes : List UInt8} {cut : List Piece} (fault : BrokenRun run bytes)
      (after : Cuts bytes cut) : Cuts (run ++ bytes) (.broken :: cut)

variable {b : UInt8} {bs cs bytes run after : List UInt8} {ranges : List ByteRange}
  {cut : List Piece} {v : Nat}

/-! ## Bytes that are a character -/

private theorem encodeChar_ofNat (hscalar : v < 0xD800 ∨ 0xDFFF < v ∧ v < 0x110000) :
    String.utf8EncodeChar (Char.ofNat v) =
      if v < 0x80 then [UInt8.ofNat v]
      else if v < 0x800 then [UInt8.ofNat (v / 64 % 0x20 + 0xC0), UInt8.ofNat (v % 64 + 0x80)]
      else if v < 0x10000 then
        [UInt8.ofNat (v / 4096 % 0x10 + 0xE0), UInt8.ofNat (v / 64 % 64 + 0x80),
          UInt8.ofNat (v % 64 + 0x80)]
      else
        [UInt8.ofNat (v / 262144 % 0x08 + 0xF0), UInt8.ofNat (v / 4096 % 64 + 0x80),
          UInt8.ofNat (v / 64 % 64 + 0x80), UInt8.ofNat (v % 64 + 0x80)] := by
  have hvalue : (Char.ofNat v).val.toNat = v := by
    rw [Char.ofNat, dif_pos hscalar]
    rfl
  unfold String.utf8EncodeChar
  simp only [hvalue, Nat.lt_succ_iff.symm]

private theorem byte_eq {n : Nat} (h : n = b.toNat) : UInt8.ofNat n = b := by
  rw [h, UInt8.ofNat_toNat]

private theorem encodeChar_one (hb : b.toNat < 0x80) :
    String.utf8EncodeChar (charOf b []) = [b] := by
  have hnumber : charOf b [] = Char.ofNat b.toNat := by
    simp only [charOf, firstBits, if_pos hb, List.foldl_nil]
  rw [hnumber, encodeChar_ofNat (by omega), if_pos hb, UInt8.ofNat_toNat]

private theorem encodeChar_two {c : UInt8} (hb : 0xC2 ≤ b.toNat ∧ b.toNat < 0xE0)
    (hc : 0x80 ≤ c.toNat ∧ c.toNat ≤ 0xBF) :
    String.utf8EncodeChar (charOf b [c]) = [b, c] := by
  obtain ⟨v, hv⟩ : ∃ v, v = 64 * (b.toNat - 0xC0) + (c.toNat - 0x80) := ⟨_, rfl⟩
  have hnumber : charOf b [c] = Char.ofNat v := by
    have hfirst : firstBits b = b.toNat - 0xC0 := by
      rw [firstBits, if_neg (by omega), if_pos (by omega)]
    rw [charOf, hfirst, hv]
    rfl
  rw [hnumber, encodeChar_ofNat (by omega), if_neg (by omega), if_pos (by omega),
    byte_eq (b := b) (by omega), byte_eq (b := c) (by omega)]

private theorem encodeChar_three {c d : UInt8} (hb : 0xE0 ≤ b.toNat ∧ b.toNat < 0xF0)
    (hc : 0x80 ≤ c.toNat ∧ c.toNat ≤ 0xBF) (hd : 0x80 ≤ d.toNat ∧ d.toNat ≤ 0xBF)
    (hlong : b.toNat = 0xE0 → 0xA0 ≤ c.toNat) (hsurrogate : b.toNat = 0xED → c.toNat ≤ 0x9F) :
    String.utf8EncodeChar (charOf b [c, d]) = [b, c, d] := by
  obtain ⟨v, hv⟩ : ∃ v, v = 64 * (64 * (b.toNat - 0xE0) + (c.toNat - 0x80)) +
    (d.toNat - 0x80) := ⟨_, rfl⟩
  have hnumber : charOf b [c, d] = Char.ofNat v := by
    have hfirst : firstBits b = b.toNat - 0xE0 := by
      rw [firstBits, if_neg (by omega), if_neg (by omega), if_pos (by omega)]
    rw [charOf, hfirst, hv]
    rfl
  rw [hnumber, encodeChar_ofNat (by omega), if_neg (by omega), if_neg (by omega),
    if_pos (by omega), byte_eq (b := b) (by omega), byte_eq (b := c) (by omega),
    byte_eq (b := d) (by omega)]

private theorem encodeChar_four {c d e : UInt8} (hb : 0xF0 ≤ b.toNat ∧ b.toNat < 0xF5)
    (hc : 0x80 ≤ c.toNat ∧ c.toNat ≤ 0xBF) (hd : 0x80 ≤ d.toNat ∧ d.toNat ≤ 0xBF)
    (he : 0x80 ≤ e.toNat ∧ e.toNat ≤ 0xBF) (hlong : b.toNat = 0xF0 → 0x90 ≤ c.toNat)
    (hlast : b.toNat = 0xF4 → c.toNat ≤ 0x8F) :
    String.utf8EncodeChar (charOf b [c, d, e]) = [b, c, d, e] := by
  obtain ⟨v, hv⟩ : ∃ v, v = 64 * (64 * (64 * (b.toNat - 0xF0) + (c.toNat - 0x80)) +
    (d.toNat - 0x80)) + (e.toNat - 0x80) := ⟨_, rfl⟩
  have hnumber : charOf b [c, d, e] = Char.ofNat v := by
    have hfirst : firstBits b = b.toNat - 0xF0 := by
      rw [firstBits, if_neg (by omega), if_neg (by omega), if_neg (by omega)]
    rw [charOf, hfirst, hv]
    rfl
  rw [hnumber, encodeChar_ofNat (by omega), if_neg (by omega), if_neg (by omega),
    if_neg (by omega), byte_eq (b := b) (by omega), byte_eq (b := c) (by omega),
    byte_eq (b := d) (by omega), byte_eq (b := e) (by omega)]

/-- What the second byte of a character may be, if there are at least three. -/
structure SecondByte (r : ByteRange) : Prop where
  low : 0x80 ≤ r.low.toNat
  high : r.high.toNat ≤ 0xBF
  ordered : r.low.toNat ≤ r.high.toNat

/-- The first bytes of characters, by the number of bytes that follow them. -/
inductive FirstByte (b : UInt8) : List ByteRange → Prop
  | one (first : b.toNat < 0x80) : FirstByte b []
  | two (first : 0xC2 ≤ b.toNat ∧ b.toNat < 0xE0) : FirstByte b [continuation]
  | three {r : ByteRange} (first : 0xE0 ≤ b.toNat ∧ b.toNat < 0xF0) (second : SecondByte r)
      (long : b.toNat = 0xE0 → 0xA0 ≤ r.low.toNat)
      (surrogate : b.toNat = 0xED → r.high.toNat ≤ 0x9F) : FirstByte b [r, continuation]
  | four {r : ByteRange} (first : 0xF0 ≤ b.toNat ∧ b.toNat < 0xF5) (second : SecondByte r)
      (long : b.toNat = 0xF0 → 0x90 ≤ r.low.toNat)
      (last : b.toNat = 0xF4 → r.high.toNat ≤ 0x8F) :
      FirstByte b [r, continuation, continuation]

theorem firstByte_of_followers? (h : followers? b = some ranges) : FirstByte b ranges := by
  have hsecond : SecondByte continuation := ⟨by decide, by decide, by decide⟩
  have hfollowers := followers?_byte b.toNat_lt
  rw [UInt8.ofNat_toNat, h] at hfollowers
  split at hfollowers
  next hone =>
    obtain rfl := Option.some.inj hfollowers
    exact .one hone
  split at hfollowers
  next => cases hfollowers
  split at hfollowers
  next htwo =>
    obtain rfl := Option.some.inj hfollowers
    exact .two ⟨by omega, htwo⟩
  split at hfollowers
  next hfirst =>
    obtain rfl := Option.some.inj hfollowers
    exact .three (by omega) ⟨by decide, by decide, by decide⟩ (fun _ => by decide) (by omega)
  split at hfollowers
  next hsurrogates =>
    obtain rfl := Option.some.inj hfollowers
    exact .three (by omega) ⟨by decide, by decide, by decide⟩ (by omega) (fun _ => by decide)
  split at hfollowers
  next hthree =>
    obtain rfl := Option.some.inj hfollowers
    exact .three (by omega) hsecond (by omega) (by omega)
  split at hfollowers
  next hfirst =>
    obtain rfl := Option.some.inj hfollowers
    exact .four (by omega) ⟨by decide, by decide, by decide⟩ (fun _ => by decide) (by omega)
  split at hfollowers
  next hfour =>
    obtain rfl := Option.some.inj hfollowers
    exact .four (by omega) hsecond (by omega) (by omega)
  split at hfollowers
  next hlast =>
    obtain rfl := Option.some.inj hfollowers
    exact .four (by omega) ⟨by decide, by decide, by decide⟩ (by omega) (fun _ => by decide)
  next => cases hfollowers

theorem SecondByte.bounds {r : ByteRange} {c : UInt8} (hr : SecondByte r)
    (h : r.contains c = true) : 0x80 ≤ c.toNat ∧ c.toNat ≤ 0xBF := by
  obtain ⟨hlow, hhigh⟩ := (contains_iff r c).mp h
  exact ⟨Nat.le_trans hr.low hlow, Nat.le_trans hhigh hr.high⟩

theorem bounds_of_continuation {c : UInt8} (h : continuation.contains c = true) :
    0x80 ≤ c.toNat ∧ c.toNat ≤ 0xBF :=
  (contains_iff continuation c).mp h

/-- A first byte with the bytes that must follow it is the character that it is read as. -/
theorem encodeChar_charOf (hfollowers : followers? b = some ranges) (h : Fills ranges cs) :
    String.utf8EncodeChar (charOf b cs) = b :: cs := by
  cases firstByte_of_followers? hfollowers with
  | one first =>
      cases h
      exact encodeChar_one first
  | two first =>
      obtain - | ⟨hc, - | _⟩ := h
      exact encodeChar_two first (bounds_of_continuation hc)
  | @three r first second long surrogate =>
      obtain - | ⟨hc, - | ⟨hd, - | _⟩⟩ := h
      obtain ⟨hlow, hhigh⟩ := (contains_iff _ _).mp hc
      exact encodeChar_three first (second.bounds hc) (bounds_of_continuation hd)
        (fun heq => Nat.le_trans (long heq) hlow) (fun heq => Nat.le_trans hhigh (surrogate heq))
  | @four r first second long last =>
      obtain - | ⟨hc, - | ⟨hd, - | ⟨he, - | _⟩⟩⟩ := h
      obtain ⟨hlow, hhigh⟩ := (contains_iff _ _).mp hc
      exact encodeChar_four first (second.bounds hc) (bounds_of_continuation hd)
        (bounds_of_continuation he) (fun heq => Nat.le_trans (long heq) hlow)
        (fun heq => Nat.le_trans hhigh (last heq))

/-! ## Bytes that begin a character -/

theorem matching_le_length (ranges : List ByteRange) (bs : List UInt8) :
    matching ranges bs ≤ bs.length := by
  fun_induction matching ranges bs with
  | case1 r ranges b bs hb ih => exact Nat.succ_le_succ ih
  | case2 r ranges b bs hb => exact Nat.zero_le _
  | case3 => exact Nat.zero_le _

/-- Some bytes at the beginning lie in the ranges if and only if they are no more than those that
do. -/
theorem matching_eq_length_iff (h : cs <+: bs) :
    matching ranges cs = cs.length ↔ cs.length ≤ matching ranges bs := by
  induction cs generalizing ranges bs with
  | nil => simp [matching]
  | cons c cs ih =>
      obtain ⟨rest, rfl⟩ := h
      cases ranges with
      | nil => simp [matching]
      | cons r ranges =>
          rw [List.cons_append, matching, matching]
          by_cases hc : r.contains c = true
          · simpa [hc] using ih (List.prefix_append cs rest)
          · simp [hc]

theorem fills_iff : Fills ranges cs ↔ matching ranges cs = ranges.length ∧
    cs.length = ranges.length := by
  constructor
  · intro h
    have hmatching := matching_of_fills h []
    rw [List.append_nil] at hmatching
    exact ⟨hmatching, (List.Forall₂.length_eq h).symm⟩
  · rintro ⟨hmatching, hlength⟩
    induction ranges generalizing cs with
    | nil =>
        obtain rfl := List.eq_nil_of_length_eq_zero hlength
        exact .nil
    | cons r ranges ih =>
        obtain ⟨c, cs, rfl⟩ := List.exists_cons_of_length_eq_add_one hlength
        by_cases hc : r.contains c = true
        · rw [matching, if_pos hc] at hmatching
          exact .cons hc (ih (Nat.succ.inj hmatching) (Nat.succ.inj hlength))
        · rw [matching, if_neg hc] at hmatching
          cases hmatching

theorem fills_take (h : matching ranges bs = ranges.length) :
    Fills ranges (bs.take ranges.length) := by
  have hlength : (bs.take ranges.length).length = ranges.length :=
    List.length_take_of_le (h ▸ matching_le_length ranges bs)
  have hmatching : matching ranges (bs.take ranges.length) = (bs.take ranges.length).length :=
    (matching_eq_length_iff (bs.take_prefix ranges.length)).mpr
      (Nat.le_of_eq (hlength.trans h.symm))
  exact fills_iff.mpr ⟨hmatching.trans hlength, hlength⟩

/-- Bytes in some of the ranges can be continued to bytes in all of them. -/
theorem exists_fills (hranges : ∀ r ∈ ranges, r.contains r.low = true)
    (h : matching ranges cs = cs.length) : ∃ more, Fills ranges (cs ++ more) := by
  induction ranges generalizing cs with
  | nil =>
      cases cs with
      | nil => exact ⟨[], .nil⟩
      | cons c cs => cases h
  | cons r ranges ih =>
      obtain ⟨hlow, hrest⟩ := List.forall_mem_cons.mp hranges
      cases cs with
      | nil =>
          have hnone : matching ranges [] = ([] : List UInt8).length := by simp [matching]
          obtain ⟨more, hmore⟩ := ih hrest hnone
          exact ⟨r.low :: more, .cons hlow hmore⟩
      | cons c cs =>
          by_cases hc : r.contains c = true
          · rw [matching, if_pos hc] at h
            obtain ⟨more, hmore⟩ := ih hrest (Nat.succ.inj h)
            exact ⟨more, .cons hc hmore⟩
          · rw [matching, if_neg hc] at h
            cases h

private theorem SecondByte.contains_low {r : ByteRange} (hr : SecondByte r) :
    r.contains r.low = true :=
  (contains_iff r r.low).mpr ⟨Nat.le_refl _, hr.ordered⟩

theorem contains_low_of_followers? (h : followers? b = some ranges) :
    ∀ r ∈ ranges, r.contains r.low = true := by
  have hcontinuation : continuation.contains continuation.low = true := rfl
  cases firstByte_of_followers? h with
  | one first => simp
  | two first => simpa using hcontinuation
  | three first second long surrogate => simpa using ⟨second.contains_low, hcontinuation⟩
  | four first second long last => simpa using ⟨second.contains_low, hcontinuation⟩

theorem pieces_cons_ne_nil (b : UInt8) (bs : List UInt8) : pieces (b :: bs) ≠ [] := by
  rw [pieces]
  split <;> exact List.cons_ne_nil _ _

/-- A character is a first byte with the bytes that must follow it. -/
theorem exists_encodeChar_eq (c : Char) : ∃ b ranges cs, String.utf8EncodeChar c = b :: cs ∧
    followers? b = some ranges ∧ Fills ranges cs := by
  -- its bytes are one piece, which is not broken and leaves nothing
  have hpieces := pieces_encodeChar_append c []
  rw [List.append_nil, pieces_nil] at hpieces
  generalize String.utf8EncodeChar c = bytes at hpieces
  cases bytes with
  | nil =>
      rw [pieces_nil] at hpieces
      cases hpieces
  | cons b cs =>
      rw [pieces] at hpieces
      split at hpieces
      next => cases hpieces
      next ranges hfollowers =>
        obtain ⟨hpiece, hrest⟩ := List.cons.inj hpieces
        have hmatching : matching ranges cs = ranges.length := by
          by_contra hshort
          rw [if_neg hshort] at hpiece
          cases hpiece
        have hnothing : cs.drop (matching ranges cs) = [] := by
          cases hdrop : cs.drop (matching ranges cs) with
          | nil => rfl
          | cons b' cs' =>
              rw [hdrop] at hrest
              exact absurd hrest (pieces_cons_ne_nil b' cs')
        have hlength : cs.length = ranges.length :=
          Nat.le_antisymm (hmatching ▸ List.drop_eq_nil_iff.mp hnothing)
            (hmatching ▸ matching_le_length ranges cs)
        exact ⟨b, ranges, cs, rfl, hfollowers, fills_iff.mpr ⟨hmatching, hlength⟩⟩

theorem begins_cons_iff : Begins (b :: cs) ↔
    ∃ ranges, followers? b = some ranges ∧ matching ranges cs = cs.length := by
  constructor
  · rintro ⟨c, hprefix⟩
    obtain ⟨first, ranges, rest, hchar, hfollowers, hfills⟩ := exists_encodeChar_eq c
    rw [hchar, List.cons_prefix_cons] at hprefix
    obtain ⟨rfl, hprefix⟩ := hprefix
    refine ⟨ranges, hfollowers, (matching_eq_length_iff hprefix).mpr ?_⟩
    obtain ⟨hmatching, hlength⟩ := fills_iff.mp hfills
    rw [hmatching, ← hlength]
    exact hprefix.length_le
  · rintro ⟨ranges, hfollowers, hmatching⟩
    obtain ⟨more, hfills⟩ := exists_fills (contains_low_of_followers? hfollowers) hmatching
    exact ⟨charOf b (cs ++ more), by
      rw [encodeChar_charOf hfollowers hfills]
      exact ⟨more, rfl⟩⟩

/-! ## Broken runs -/

theorem brokenRun_single (h : followers? b = none) (bs : List UInt8) : BrokenRun [b] bs where
  nonempty := List.cons_ne_nil _ _
  broken c hc := by
    obtain ⟨first, ranges, rest, hchar, hfollowers, -⟩ := exists_encodeChar_eq c
    rw [hchar, List.singleton_append, List.cons_prefix_cons] at hc
    obtain ⟨rfl, -⟩ := hc
    rw [h] at hfollowers
    cases hfollowers
  begins := .inr rfl
  longest longer hlonger hbegins := by
    cases longer with
    | nil => exact Nat.zero_le _
    | cons first more =>
        rw [List.singleton_append, List.cons_prefix_cons] at hlonger
        obtain ⟨rfl, -⟩ := hlonger
        obtain ⟨ranges, hfollowers, -⟩ := begins_cons_iff.mp hbegins
        rw [h] at hfollowers
        cases hfollowers

/-- A first byte without all the bytes that must follow it is broken, with those that do. -/
theorem brokenRun_take (hfollowers : followers? b = some ranges)
    (hshort : matching ranges bs ≠ ranges.length) :
    BrokenRun (b :: bs.take (matching ranges bs)) (bs.drop (matching ranges bs)) where
  nonempty := List.cons_ne_nil _ _
  broken c hc := by
    obtain ⟨first, ranges', rest, hchar, hfollowers', hfills⟩ := exists_encodeChar_eq c
    rw [hchar, List.cons_append, List.take_append_drop, List.cons_prefix_cons] at hc
    obtain ⟨rfl, more, rfl⟩ := hc
    obtain rfl := Option.some.inj (hfollowers.symm.trans hfollowers')
    exact hshort (matching_of_fills hfills more)
  begins := by
    refine .inl (begins_cons_iff.mpr ⟨ranges, hfollowers, ?_⟩)
    rw [matching_eq_length_iff (List.take_prefix _ bs)]
    exact List.length_take_le _ bs
  longest longer hlonger hbegins := by
    cases longer with
    | nil => exact Nat.zero_le _
    | cons first more =>
        rw [List.cons_append, List.take_append_drop, List.cons_prefix_cons] at hlonger
        obtain ⟨rfl, hmore⟩ := hlonger
        obtain ⟨ranges', hfollowers', hmatching⟩ := begins_cons_iff.mp hbegins
        obtain rfl := Option.some.inj (hfollowers.symm.trans hfollowers')
        rw [List.length_cons, List.length_cons,
          List.length_take_of_le (matching_le_length ranges bs)]
        exact Nat.succ_le_succ ((matching_eq_length_iff hmore).mp hmatching)

theorem BrokenRun.length_le {run' after' : List UInt8} (h : BrokenRun run after)
    (h' : BrokenRun run' after') (hsame : run ++ after = run' ++ after') :
    run'.length ≤ run.length := by
  rcases h'.begins with hbegins | hsingle
  · exact h.longest run' (hsame ▸ List.prefix_append run' after') hbegins
  · rw [hsingle]
    exact List.length_pos_of_ne_nil h.nonempty

/-- At the beginning of given bytes there is at most one broken run. -/
theorem BrokenRun.unique {run' after' : List UInt8} (h : BrokenRun run after)
    (h' : BrokenRun run' after') (hsame : run ++ after = run' ++ after') :
    run = run' ∧ after = after' :=
  List.append_inj hsame
    (Nat.le_antisymm (h'.length_le h hsame.symm) (h.length_le h' hsame))

/-! ## Cutting bytes -/

theorem pieces_of_brokenRun (h : BrokenRun run after) :
    pieces (run ++ after) = .broken :: pieces after := by
  obtain ⟨b, bs, hbytes⟩ := List.exists_cons_of_ne_nil
    (List.append_ne_nil_of_left_ne_nil h.nonempty after)
  rw [hbytes, pieces]
  split
  next hfollowers =>
    obtain ⟨-, rfl⟩ := h.unique (brokenRun_single hfollowers bs) hbytes
    rfl
  next ranges hfollowers =>
    by_cases hmatching : matching ranges bs = ranges.length
    · -- then there would be a character
      have hchar := encodeChar_charOf hfollowers (fills_take hmatching)
      refine absurd ?_ (h.broken (charOf b (bs.take ranges.length)))
      rw [hbytes, hchar, List.cons_prefix_cons]
      exact ⟨rfl, List.take_prefix _ bs⟩
    · have hrun := brokenRun_take hfollowers hmatching
      obtain ⟨-, rfl⟩ := h.unique hrun (by rw [hbytes, List.cons_append, List.take_append_drop])
      dsimp only
      rw [if_neg hmatching]

theorem cuts_pieces (bytes : List UInt8) : Cuts bytes (pieces bytes) := by
  fun_induction pieces bytes with
  | case1 => exact .nil
  | case2 b bs hfollowers ih => exact .broken (brokenRun_single hfollowers bs) ih
  | case3 b bs ranges hfollowers count piece ih =>
      by_cases hmatching : matching ranges bs = ranges.length
      · have hpiece : piece = .char (charOf b (bs.take count)) := if_pos hmatching
        have hchar : String.utf8EncodeChar (charOf b (bs.take count)) = b :: bs.take count := by
          have hfills := fills_take hmatching
          rw [← hmatching] at hfills
          exact encodeChar_charOf hfollowers hfills
        have hbytes : String.utf8EncodeChar (charOf b (bs.take count)) ++ bs.drop count =
            b :: bs := by
          rw [hchar, List.cons_append, List.take_append_drop]
        rw [← hbytes, hpiece]
        exact .char _ ih
      · have hpiece : piece = .broken := if_neg hmatching
        have hcut := Cuts.broken (brokenRun_take hfollowers hmatching) ih
        rw [List.cons_append, List.take_append_drop] at hcut
        rw [hpiece]
        exact hcut

/-- Bytes are cut in one way only. -/
theorem cuts_iff : Cuts bytes cut ↔ cut = pieces bytes := by
  constructor
  · intro h
    induction h with
    | nil => exact pieces_nil.symm
    | char c after ih => rw [pieces_encodeChar_append, ih]
    | broken fault after ih => rw [pieces_of_brokenRun fault, ih]
  · rintro rfl
    exact cuts_pieces bytes

/-! ## Valid bytes -/

theorem exists_encode_eq (cs : List Char) :
    ∃ text, text.toList = cs ∧ encode text = cs.flatMap String.utf8EncodeChar :=
  ⟨String.ofList cs, String.toList_ofList, by rw [encode_eq, String.toList_ofList]⟩

theorem isValid_eq_false_iff : isValid bytes = false ↔ .broken ∈ pieces bytes := by
  simp [isValid, List.all_eq_false]

/-- Bytes without a broken run are those of a text. -/
theorem Cuts.exists_encode (h : Cuts bytes cut) (hcut : .broken ∉ cut) :
    ∃ text, encode text = bytes := by
  induction h with
  | nil => exact ⟨"", rfl⟩
  | char c after ih =>
      obtain ⟨text, rfl⟩ := ih fun hbroken => hcut (List.mem_cons_of_mem _ hbroken)
      obtain ⟨longer, -, hlonger⟩ := exists_encode_eq (c :: text.toList)
      exact ⟨longer, by rw [hlonger, List.flatMap_cons, ← encode_eq]⟩
  | broken fault after ih => exact absurd List.mem_cons_self hcut

theorem isValid_iff : isValid bytes = true ↔ ∃ text, encode text = bytes := by
  constructor
  · intro hvalid
    refine (cuts_pieces bytes).exists_encode fun hbroken => ?_
    rw [isValid_eq_false_iff.mpr hbroken] at hvalid
    cases hvalid
  · rintro ⟨text, rfl⟩
    exact isValid_encode text

/-! ## Faults -/

/-- Bytes with a broken run have a first one. -/
theorem Cuts.exists_fault (h : Cuts bytes cut) (hcut : .broken ∈ cut) :
    ∃ text run after, bytes = encode text ++ (run ++ after) ∧ BrokenRun run after := by
  induction h with
  | nil => cases hcut
  | @char c bytes cut _ ih =>
      have hrest : .broken ∈ cut := by simpa using hcut
      obtain ⟨text, run, after, rfl, hfault⟩ := ih hrest
      obtain ⟨longer, -, hlonger⟩ := exists_encode_eq (c :: text.toList)
      refine ⟨longer, run, after, ?_, hfault⟩
      rw [hlonger, List.flatMap_cons, ← encode_eq, List.append_assoc]
  | @broken run bytes cut fault after ih => exact ⟨"", run, bytes, rfl, fault⟩

private theorem prefix_of_map_char {first second : List Char} {rest rest' : List Piece}
    (h : first.map .char ++ rest = second.map .char ++ .broken :: rest') : first <+: second := by
  induction first generalizing second with
  | nil => exact List.nil_prefix
  | cons c first ih =>
      cases second with
      | nil => cases h
      | cons c' second =>
          obtain ⟨hhead, htail⟩ := List.cons.inj h
          rw [Piece.char.inj hhead]
          exact List.cons_prefix_cons.mpr ⟨rfl, ih htail⟩

/-- No text reaches beyond a broken run. -/
theorem BrokenRun.furthest {text other : String} (h : BrokenRun run after)
    (hother : encode other <+: encode text ++ (run ++ after)) :
    (encode other).length ≤ (encode text).length := by
  obtain ⟨more, hmore⟩ := hother
  have hpieces := congrArg pieces hmore
  rw [pieces_encode_append, pieces_encode_append, pieces_of_brokenRun h] at hpieces
  obtain ⟨rest, hrest⟩ := prefix_of_map_char hpieces
  rw [encode_eq, encode_eq, ← hrest, List.flatMap_append, List.length_append]
  exact Nat.le_add_right _ _

theorem exists_firstFault (h : isValid bytes = false) :
    ∃ text run after, FirstFault bytes text run after := by
  obtain ⟨text, run, after, hbytes, hfault⟩ :=
    (cuts_pieces bytes).exists_fault (isValid_eq_false_iff.mp h)
  refine ⟨text, run, after, hbytes, fun other hother => ?_, hfault⟩
  rw [hbytes] at hother
  exact hfault.furthest hother

/-! ## Repair -/

theorem repair_encode_append (text : String) (bs : List UInt8) :
    repair (encode text ++ bs) = text.toList ++ repair bs := by
  rw [repair, pieces_encode_append, List.map_append, List.map_map]
  exact congrArg (· ++ repair bs) (List.map_id _)

/-- What is valid can be repaired apart from what follows it. -/
theorem repair_append (h : isValid bytes = true) (more : List UInt8) :
    repair (bytes ++ more) = repair bytes ++ repair more := by
  obtain ⟨text, rfl⟩ := isValid_iff.mp h
  rw [repair_encode_append, repair_encode]

theorem FirstFault.repair_eq {text : String} (h : FirstFault bytes text run after) :
    repair bytes = text.toList ++ placeholder :: repair after := by
  rw [h.bytes_eq, repair_encode_append, repair, pieces_of_brokenRun h.fault, List.map_cons]
  rfl

/-- Every piece has at least one byte. -/
theorem Cuts.length_le (h : Cuts bytes cut) : cut.length ≤ bytes.length := by
  induction h with
  | nil => exact Nat.le_refl _
  | char c after ih =>
      obtain ⟨b, ranges, cs, hchar, -⟩ := exists_encodeChar_eq c
      rw [hchar, List.length_append, List.length_cons, List.length_cons]
      omega
  | broken fault after ih =>
      have hrun := List.length_pos_of_ne_nil fault.nonempty
      rw [List.length_append, List.length_cons]
      omega

theorem encode_repair_eq_iff :
    encode (String.ofList (repair bytes)) = bytes ↔ isValid bytes = true := by
  constructor
  · intro h
    exact isValid_iff.mpr ⟨_, h⟩
  · intro h
    obtain ⟨text, rfl⟩ := isValid_iff.mp h
    rw [repair_encode, String.ofList_toList]

/-- **Repair is exact.**  Bytes are cut into characters and broken runs in one way only, and repair
keeps the characters and puts one placeholder for each broken run; at the first of them it goes on
with the bytes that come after the run.  So it gives the bytes back if and only if they are valid,
which means that they are those of a text; it changes nothing when it is done again; it gives no
more characters than there are bytes; and what is valid can be repaired apart from what follows
it. -/
theorem repair_is_exact (bytes : List UInt8) :
    (∃ cut, Cuts bytes cut ∧ (∀ other, Cuts bytes other → other = cut) ∧
      repair bytes = cut.map Piece.shown) ∧
    (isValid bytes = false → ∃ text run after, FirstFault bytes text run after ∧
      repair bytes = text.toList ++ '*' :: repair after) ∧
    (isValid bytes = true ↔ ∃ text, encode text = bytes) ∧
    (encode (String.ofList (repair bytes)) = bytes ↔ isValid bytes = true) ∧
    repair (encode (String.ofList (repair bytes))) = repair bytes ∧
    (repair bytes).length ≤ bytes.length ∧
    (isValid bytes = true → ∀ more, repair (bytes ++ more) = repair bytes ++ repair more) := by
  refine ⟨⟨pieces bytes, cuts_pieces bytes, fun other => cuts_iff.mp, rfl⟩, fun hinvalid => ?_,
    isValid_iff, encode_repair_eq_iff, ?_, ?_, repair_append⟩
  · obtain ⟨text, run, after, hfault⟩ := exists_firstFault hinvalid
    exact ⟨text, run, after, hfault, hfault.repair_eq⟩
  · rw [repair_encode, String.toList_ofList]
  · rw [repair, List.length_map]
    exact (cuts_pieces bytes).length_le

end Captioning.Utf8
