import Captioning.Proofs.Render.Wrapping
import Mathlib.Data.List.DropRight

/-!
# Blank rows

A row is closed only if something stands on it, so of all rows that a line is broken into only the
last one can be blank.  It is blank if the line ends with spaces that have no room on the row on
which its last word ends: one of them closes that row, and all that follow are lost on the new one.
Spaces anywhere else in a line never make a row.
-/

namespace Captioning

/-- A line without the spaces at its end. -/
def bodyOf (line : List Char) : List Char :=
  line.rdropWhile (· == ' ')

/-- The spaces at the end of a line. -/
def tailOf (line : List Char) : List Char :=
  line.rtakeWhile (· == ' ')

/-- The row on which the last word of a line ends that is broken at spaces. -/
def lastRow (size : Nat) (mode : WrapMode) (line : List Char) : List Char :=
  (wrapWords size mode [] ((bodyOf line).splitOn ' ')).getLastD []

/-- A line is broken at spaces, and it ends with spaces that have no room after its last word. -/
structure Overhangs (size : Nat) (mode : WrapMode) (line : List Char) : Prop where
  atSpaces : mode.AtSpaces
  long : size < line.length
  ends : tailOf line ≠ []
  noRoom : size < (lastRow size mode line).length + (tailOf line).length

variable {size : Nat} {mode : WrapMode} {line word row piece : List Char}
  {words closed : List (List Char)}

/-! ## The end of a line -/

theorem tailOf_eq_replicate (line : List Char) :
    tailOf line = List.replicate (tailOf line).length ' ' := by
  refine List.eq_replicate_of_mem fun c hc => ?_
  have hspace := List.mem_rtakeWhile_imp (p := (· == ' ')) hc
  exact beq_iff_eq.mp hspace

theorem body_append_tail (line : List Char) : bodyOf line ++ tailOf line = line :=
  List.rdropWhile_append_rtakeWhile

/-- The spaces at the end of a line are words without characters. -/
theorem words_append_replicate (body : List Char) (count : Nat) :
    (body ++ List.replicate count ' ').splitOn ' ' =
      body.splitOn ' ' ++ List.replicate count [] := by
  induction count with
  | zero => simp
  | succ count ih =>
      rw [List.replicate_succ', ← List.append_assoc, List.splitOn_append_cons_self, ih,
        List.splitOn_nil, List.append_assoc, ← List.replicate_succ']

/-- The last word of a line that does not end with a space has characters. -/
theorem getLast?_words_ne_nil (hline : line ≠ []) (hlast : line.getLast? ≠ some ' ') :
    (line.splitOn ' ').getLast? ≠ some [] := by
  induction line with
  | nil => exact absurd rfl hline
  | cons c line ih =>
      obtain ⟨first, others, hwords⟩ :=
        List.exists_cons_of_ne_nil (List.splitOn_ne_nil ' ' line)
      rw [List.splitOn_cons_eq_if_modifyHead, hwords]
      cases line with
      | nil =>
          obtain ⟨rfl, rfl⟩ := List.cons_eq_cons.mp ((List.splitOn_nil ' ').symm.trans hwords)
          have hc : (c == ' ') = false := by simpa using hlast
          simp [hc]
      | cons d line =>
          rw [List.getLast?_cons_cons] at hlast
          have htail := ih (List.cons_ne_nil _ _) hlast
          rw [hwords] at htail
          split
          · rwa [List.getLast?_cons_cons]
          · cases others with
            | nil => simp
            | cons second others =>
                rw [List.getLast?_cons_cons] at htail
                rwa [List.modifyHead_cons, List.getLast?_cons_cons]

/-! ## Rows that are not blank -/

/-- Only rows with something on them are closed. -/
theorem Placed.nil_notMem (h : Placed size mode line word closed row) : [] ∉ closed := by
  cases h with
  | fits room => exact List.not_mem_nil
  | @breaks full last noRoom pieces =>
      intro hmem
      rcases List.mem_append.mp hmem with hline | hfull
      · obtain ⟨hnil, hne⟩ := mem_closedRow.mp hline
        exact hne hnil.symm
      · -- the pieces of a word are blank only if the word has no characters, and then it is one
        have hpiece : [] ∈ wordPieces size mode word := pieces ▸ List.mem_append_left _ hfull
        have hword : word = [] := by
          refine Classical.byContradiction fun hne => ?_
          exact ne_nil_of_mem_wordPieces hne hpiece rfl
        have hsingle : full ++ [row] = [] ++ [[]] := by
          rw [← pieces, hword, wordPieces, if_neg (by simp)]
          rfl
        obtain ⟨rfl, -⟩ := List.append_inj' hsingle rfl
        cases hfull

/-- After a word with characters the open row is not blank. -/
theorem Placed.row_ne_nil (hword : word ≠ []) (h : Placed size mode line word closed row) :
    row ≠ [] := by
  cases h with
  | fits room =>
      unfold appendWord
      split
      · exact hword
      · exact List.append_ne_nil_of_right_ne_nil _ (List.cons_ne_nil _ _)
  | breaks noRoom pieces =>
      have hrow : row ∈ wordPieces size mode word := by
        rw [pieces]
        exact List.mem_append_right _ (List.mem_singleton_self row)
      exact ne_nil_of_mem_wordPieces hword hrow

/-- Words close some rows and leave one open, on which further words are placed.  The closed rows
are not blank, and neither is the open one if the last word has characters. -/
theorem wrapWords_append (size : Nat) (mode : WrapMode) (line : List Char)
    (words : List (List Char)) :
    ∃ closed row, (∀ rest, wrapWords size mode line (words ++ rest) =
        closed ++ wrapWords size mode row rest) ∧
      [] ∉ closed ∧ (words ≠ [] → words.getLast? ≠ some [] → row ≠ []) := by
  induction words generalizing line with
  | nil => exact ⟨[], line, fun _ => rfl, List.not_mem_nil, fun h => absurd rfl h⟩
  | cons word words ih =>
      obtain ⟨closed, row, hplaced, heq⟩ := wrapWords_cons size mode line word
      obtain ⟨closed', row', heq', hblank, hrow⟩ := ih row
      refine ⟨closed ++ closed', row', fun rest => ?_, ?_, fun _ hlast => ?_⟩
      · rw [List.cons_append, heq, heq', List.append_assoc]
      · rw [List.mem_append, not_or]
        exact ⟨hplaced.nil_notMem, hblank⟩
      · cases words with
        | nil =>
            -- the word is the last one
            have hsame := heq' []
            simp only [List.append_nil, wrapWords] at hsame
            obtain ⟨-, hrows⟩ := List.append_inj' (hsame.symm.trans (List.nil_append _).symm) rfl
            rw [List.singleton_inj.mp hrows]
            exact hplaced.row_ne_nil (by simpa using hlast)
        | cons second words =>
            rw [List.getLast?_cons_cons] at hlast
            exact hrow (List.cons_ne_nil _ _) hlast

/-! ## Spaces at the end -/

theorem wrapWords_nil_blank_words (size : Nat) (mode : WrapMode) (count : Nat) :
    wrapWords size mode [] (List.replicate count []) = [[]] := by
  induction count with
  | zero => rfl
  | succ count ih =>
      rw [List.replicate_succ, wrapWords]
      simp only [appendWord, List.length_nil, Nat.zero_le, if_true]
      exact ih

/-- Spaces after a word fill the row up.  If there are more of them than have room, the last row
is blank. -/
theorem wrapWords_blank_words (hrow : row ≠ []) (count : Nat) :
    wrapWords size mode row (List.replicate count []) =
      if count = 0 ∨ row.length + count ≤ size then [row ++ List.replicate count ' ']
      else [row ++ List.replicate (size - row.length) ' ', []] := by
  induction count generalizing row with
  | zero => simp [wrapWords]
  | succ count ih =>
      have happend : appendWord row [] = row ++ [' '] := by rw [appendWord, if_neg hrow]
      have hlength : (row ++ [' ']).length = row.length + 1 := by simp
      rw [List.replicate_succ, wrapWords]
      simp only [happend, hlength]
      by_cases hroom : row.length + 1 ≤ size
      · rw [if_pos hroom, ih (List.append_ne_nil_of_left_ne_nil hrow _), hlength]
        by_cases hall : row.length + (count + 1) ≤ size
        · rw [if_pos (.inr (by omega)), if_pos (.inr hall), List.append_assoc,
            List.singleton_append, ← List.replicate_succ]
        · have hrest : size - row.length = size - (row.length + 1) + 1 := by omega
          rw [if_neg (by omega), if_neg (by omega), List.append_assoc, List.singleton_append,
            ← List.replicate_succ, ← hrest]
      · have hpieces : wordPieces size mode [] = [[]] := by rw [wordPieces, if_neg (by simp)]
        have hnone : size - row.length = 0 := by omega
        rw [if_neg hroom, if_neg hrow, if_neg (by omega), hpieces, hnone]
        simp only [List.dropLast_singleton, List.getLast?_singleton, Option.getD_some,
          wrapWords_nil_blank_words]
        simp

theorem bodyOf_ne_nil (hink : ∃ c ∈ line, c ≠ ' ') : bodyOf line ≠ [] := by
  obtain ⟨c, hc, hne⟩ := hink
  intro hbody
  have hspaces := body_append_tail line
  rw [hbody, List.nil_append, tailOf_eq_replicate] at hspaces
  rw [← hspaces] at hc
  exact hne (List.eq_of_mem_replicate hc)

theorem getLast?_bodyOf (line : List Char) : (bodyOf line).getLast? ≠ some ' ' := by
  by_cases hbody : bodyOf line = []
  · rw [hbody]
    exact Option.some_ne_none _ ∘ Eq.symm
  · have hkept := List.rdropWhile_last_not (· == ' ') line hbody
    rw [List.getLast?_eq_some_getLast hbody]
    intro hlast
    exact hkept (beq_iff_eq.mpr (Option.some.inj hlast))

/-- The rows of a line that is broken at spaces: those that its words close, the row on which its
last word ends, filled up with the spaces that follow, and a blank row if some are left. -/
theorem wrapLine_of_ink (hmode : mode.AtSpaces) (hlong : size < line.length)
    (hink : ∃ c ∈ line, c ≠ ' ') :
    ∃ closed, [] ∉ closed ∧ lastRow size mode line ≠ [] ∧
      wrapLine size mode line = closed ++
        if (tailOf line).length = 0 ∨
            (lastRow size mode line).length + (tailOf line).length ≤ size then
          [lastRow size mode line ++ tailOf line]
        else [lastRow size mode line ++
          List.replicate (size - (lastRow size mode line).length) ' ', []] := by
  obtain ⟨closed, row, hrows, hblank, hopen⟩ :=
    wrapWords_append size mode [] ((bodyOf line).splitOn ' ')
  have hrow : row ≠ [] := hopen (List.splitOn_ne_nil _ _)
    (getLast?_words_ne_nil (bodyOf_ne_nil hink) (getLast?_bodyOf line))
  have hlast : lastRow size mode line = row := by
    have hwords := hrows []
    rw [List.append_nil, wrapWords] at hwords
    rw [lastRow, hwords, List.getLastD_eq_getLast?, List.getLast?_concat, Option.getD_some]
  have hwords : line.splitOn ' ' =
      (bodyOf line).splitOn ' ' ++ List.replicate (tailOf line).length [] := by
    rw [← words_append_replicate, ← tailOf_eq_replicate, body_append_tail]
  refine ⟨closed, hblank, hlast ▸ hrow, ?_⟩
  rw [wrapLine_of_atSpaces hmode hlong, hwords, hrows, wrapWords_blank_words hrow, hlast,
    ← tailOf_eq_replicate]

/-- **A line is given a blank row exactly if spaces hang over at its end.**  A line with any
character that is no space is considered.  All rows before the last one have something on them.
The last one is blank exactly if the line is broken at spaces and ends with spaces that have no room
on the row on which its last word ends; this row is then filled up with spaces, and the blank one
is all that the others come to. -/
theorem row_is_blank_iff (size : Nat) (mode : WrapMode)
    (hink : ∃ c ∈ line, c ≠ ' ') :
    [] ∉ (wrapLine size mode line).dropLast ∧
      ([] ∈ wrapLine size mode line ↔ Overhangs size mode line) := by
  have hline : line ≠ [] := by
    obtain ⟨c, hc, -⟩ := hink
    exact List.ne_nil_of_mem hc
  rcases Nat.lt_or_ge size line.length with hlong | hfits
  · by_cases hmode : mode.AtSpaces
    · obtain ⟨closed, hblank, hrow, hrows⟩ := wrapLine_of_ink hmode hlong hink
      rw [hrows]
      split
      next hroom =>
        have hshown : lastRow size mode line ++ tailOf line ≠ [] :=
          List.append_ne_nil_of_left_ne_nil hrow _
        refine ⟨by simpa using hblank, iff_of_false ?_ fun hover => ?_⟩
        · simp only [List.mem_append, List.mem_singleton, not_or]
          exact ⟨hblank, fun hnil => hshown hnil.symm⟩
        · have hends := List.length_pos_iff.mpr hover.ends
          have hnoRoom := hover.noRoom
          omega
      next hnoRoom =>
        rw [not_or, Nat.not_le] at hnoRoom
        refine ⟨?_, iff_of_true (by simp) ⟨hmode, hlong, ?_, hnoRoom.2⟩⟩
        · rw [List.dropLast_append_of_ne_nil (List.cons_ne_nil _ _)]
          simp [hblank, hrow]
        · exact List.length_pos_iff.mp (Nat.pos_of_ne_zero hnoRoom.1)
    · -- chunks are never blank
      have hrows : ∀ piece ∈ wrapLine size mode line, piece ≠ [] := by
        intro piece hpiece
        cases mode with
        | never =>
            rw [wrapLine_of_fits (.inl rfl)] at hpiece
            exact List.mem_singleton.mp hpiece ▸ hline
        | char =>
            rw [wrapLine_of_char hlong] at hpiece
            exact ne_nil_of_mem_chunks hpiece
        | word => exact absurd (.inl rfl) hmode
        | wordChar => exact absurd (.inr rfl) hmode
      refine ⟨fun hmem => hrows [] (List.dropLast_subset _ hmem) rfl, ?_⟩
      exact iff_of_false (fun hmem => hrows [] hmem rfl) fun hover => hmode hover.atSpaces
  · rw [wrapLine_of_fits (.inr hfits)]
    refine ⟨List.not_mem_nil, iff_of_false ?_ fun hover => ?_⟩
    · simpa using hline.symm
    · exact absurd hover.long (Nat.not_lt.mpr hfits)

/-- Two words and two spaces in rows of three characters: only the first of the spaces has room
after the second word. -/
theorem second_space_is_blank :
    let line := ['a', 'b', ' ', 'c', 'd', ' ', ' ']
    (∃ c ∈ line, c ≠ ' ') ∧ Overhangs 3 .word line ∧ [] ∈ wrapLine 3 .word line := by
  intro line
  have hink : ∃ c ∈ line, c ≠ ' ' := ⟨'a', List.mem_cons_self, by decide⟩
  have hover : Overhangs 3 .word line := ⟨.inl rfl, by decide, by decide, by decide⟩
  exact ⟨hink, hover, (row_is_blank_iff 3 .word hink).2.mpr hover⟩

/-- A letter and a space are broken into the letter and a blank row, although rows of one
character have room for all that is seen. -/
theorem space_begins_blank_row :
    let line := ['a', ' ']
    1 ≤ 1 ∧ (∃ c ∈ line, c ≠ ' ') ∧ wrapLine 1 .wordChar line = [['a'], []] :=
  ⟨Nat.le_refl 1, ⟨'a', List.mem_cons_self, by decide⟩, by decide⟩

end Captioning
