import Captioning.Render.Wrap
import Mathlib.Data.List.Chain

/-!
# Lines that are broken

A line that is broken after any character falls into chunks.  A line that is broken at spaces is
filled word by word: each word is placed on the open row, or it closes that row and begins a new
one.  So it is enough to know what placing one word does (`Placed`), and what is kept by that holds
of all rows.

Rows are filled greedily.  A row is closed only by a word that has no room on it, and this word, or
as much of it as a row can hold, is what the next row begins with.
-/

namespace Captioning

/-- A text without its spaces. -/
def inked (text : List Char) : List Char :=
  text.filter (· ≠ ' ')

/-- The beginning of a text up to its first space. -/
def firstWord (text : List Char) : List Char :=
  text.takeWhile (· ≠ ' ')

/-- Lines are broken at spaces. -/
def WrapMode.AtSpaces (mode : WrapMode) : Prop :=
  mode = .word ∨ mode = .wordChar

/-- The first word of the next row has no room on a row, not even after a space. -/
def HasNoRoom (size : Nat) (row next : List Char) : Prop :=
  size < row.length + 1 + (firstWord next).length

variable {size : Nat} {mode : WrapMode} {line word row piece : List Char}
  {words rest closed full : List (List Char)}

/-! ## Texts without spaces -/

@[simp] theorem inked_nil : inked [] = [] :=
  rfl

@[simp] theorem inked_append (first second : List Char) :
    inked (first ++ second) = inked first ++ inked second :=
  List.filter_append ..

theorem inked_space_cons (text : List Char) : inked (' ' :: text) = inked text :=
  rfl

theorem inked_appendWord (line word : List Char) :
    inked (appendWord line word) = inked line ++ inked word := by
  unfold appendWord
  split
  next hline => rw [hline, inked_nil, List.nil_append]
  next => rw [inked_append, inked_space_cons]

/-- A line without its spaces consists of its words. -/
theorem inked_flatten_words (line : List Char) :
    inked (line.splitOn ' ').flatten = inked line := by
  induction line with
  | nil => rfl
  | cons c line ih =>
      rw [List.splitOn_cons_eq_if_modifyHead]
      split
      next hc =>
        rw [beq_iff_eq.mp hc, inked_space_cons, ← ih]
        rfl
      next =>
        obtain ⟨first, others, hwords⟩ :=
          List.exists_cons_of_ne_nil (List.splitOn_ne_nil ' ' line)
        rw [hwords, List.flatten_cons] at ih
        rw [hwords, List.modifyHead_cons, List.flatten_cons, List.cons_append,
          ← List.singleton_append, inked_append, ih, ← inked_append, List.singleton_append]

theorem space_notMem_of_mem_words (h : word ∈ line.splitOn ' ') : ' ' ∉ word := by
  induction line generalizing word with
  | nil =>
      rw [List.splitOn_nil, List.mem_singleton] at h
      simp [h]
  | cons c line ih =>
      rw [List.splitOn_cons_eq_if_modifyHead] at h
      obtain ⟨first, others, hwords⟩ :=
        List.exists_cons_of_ne_nil (List.splitOn_ne_nil ' ' line)
      rw [hwords] at h ih
      split at h
      next =>
        rcases List.mem_cons.mp h with rfl | hmem
        · exact List.not_mem_nil
        · exact ih hmem
      next hc =>
        rw [List.modifyHead_cons] at h
        rcases List.mem_cons.mp h with rfl | hmem
        · have hfirst : ' ' ∉ first := ih List.mem_cons_self
          simp only [beq_iff_eq] at hc
          simp only [List.mem_cons, not_or]
          exact ⟨fun heq => hc heq.symm, hfirst⟩
        · exact ih (List.mem_cons_of_mem _ hmem)

/-- A text that begins with a word has a first word that is no shorter. -/
theorem length_le_firstWord (hbegins : word <+: row) (hword : ' ' ∉ word) :
    word.length ≤ (firstWord row).length := by
  obtain ⟨tail, rfl⟩ := hbegins
  have hink : ∀ c ∈ word, decide (c ≠ ' ') = true := by
    intro c hc
    exact decide_eq_true fun heq => hword (heq ▸ hc)
  rw [firstWord, List.takeWhile_append_of_pos hink, List.length_append]
  exact Nat.le_add_right _ _

/-! ## Chunks -/

theorem flatten_chunks {α : Type} (size : Nat) (items : List α) :
    (chunks size items).flatten = items := by
  fun_induction chunks size items with
  | case1 => rfl
  | case2 items hitems ih => rw [List.flatten_cons, ih, List.take_append_drop]

theorem chunks_ne_nil {α : Type} {items : List α} (hitems : items ≠ []) :
    chunks size items ≠ [] := by
  rw [chunks, if_neg hitems]
  exact List.cons_ne_nil _ _

theorem length_le_of_mem_chunks {α : Type} (hsize : 1 ≤ size) {items piece : List α}
    (h : piece ∈ chunks size items) : piece.length ≤ size := by
  fun_induction chunks size items with
  | case1 => cases h
  | case2 items hitems ih =>
      rcases List.mem_cons.mp h with rfl | hmem
      · rw [List.length_take]
        omega
      · exact ih hmem

theorem ne_nil_of_mem_chunks {α : Type} {items piece : List α}
    (h : piece ∈ chunks size items) : piece ≠ [] := by
  fun_induction chunks size items with
  | case1 => cases h
  | case2 items hitems ih =>
      rcases List.mem_cons.mp h with rfl | hmem
      · have hpos := List.length_pos_iff.mpr hitems
        rw [← List.length_pos_iff, List.length_take]
        omega
      · exact ih hmem

/-- All chunks but the last one are full. -/
theorem length_of_mem_dropLast_chunks {α : Type} (hsize : 1 ≤ size) {items piece : List α}
    (h : piece ∈ (chunks size items).dropLast) : piece.length = size := by
  fun_induction chunks size items with
  | case1 => cases h
  | case2 items hitems ih =>
      by_cases hrest : items.drop (max size 1) = []
      · rw [hrest, chunks, if_pos rfl] at h
        cases h
      · rw [List.dropLast_cons_of_ne_nil (chunks_ne_nil hrest)] at h
        rcases List.mem_cons.mp h with rfl | hmem
        · -- something is left after this chunk
          rw [List.drop_eq_nil_iff] at hrest
          rw [List.length_take]
          omega
        · exact ih hmem

/-! ## Placing a word -/

/-- The row that is closed when a new one begins; an empty one is given up. -/
def closedRow (line : List Char) : List (List Char) :=
  if line = [] then [] else [line]

theorem mem_closedRow : piece ∈ closedRow line ↔ piece = line ∧ line ≠ [] := by
  unfold closedRow
  split
  next hline => simp [hline]
  next hline => simp [hline]

theorem flatten_closedRow (line : List Char) : (closedRow line).flatten = line := by
  unfold closedRow
  split
  next hline => rw [hline, List.flatten_nil]
  next => rw [List.flatten_singleton]

/-- What placing a word after an open row does: it closes some rows and leaves a row open. -/
inductive Placed (size : Nat) (mode : WrapMode) (line word : List Char) :
    List (List Char) → List Char → Prop
  | fits (room : (appendWord line word).length ≤ size) :
      Placed size mode line word [] (appendWord line word)
  | breaks {full : List (List Char)} {last : List Char}
      (noRoom : size < (appendWord line word).length)
      (pieces : wordPieces size mode word = full ++ [last]) :
      Placed size mode line word (closedRow line ++ full) last

theorem flatten_wordPieces (size : Nat) (mode : WrapMode) (word : List Char) :
    (wordPieces size mode word).flatten = word := by
  unfold wordPieces
  split
  · exact flatten_chunks size word
  · exact List.flatten_singleton

theorem wordPieces_ne_nil (size : Nat) (mode : WrapMode) (word : List Char) :
    wordPieces size mode word ≠ [] := by
  unfold wordPieces
  split
  next hlong => exact chunks_ne_nil (List.length_pos_iff.mp (by omega))
  next => exact List.cons_ne_nil _ _

/-- All pieces of a word but the last one are full. -/
theorem length_of_mem_full (hsize : 1 ≤ size)
    (hpieces : wordPieces size mode word = full ++ [row]) (h : piece ∈ full) :
    piece.length = size := by
  have hfull : (wordPieces size mode word).dropLast = full := by
    rw [hpieces, List.dropLast_concat]
  rw [← hfull] at h
  unfold wordPieces at h
  split at h
  · exact length_of_mem_dropLast_chunks hsize h
  · cases h

theorem subset_of_mem_wordPieces (h : piece ∈ wordPieces size mode word) : piece ⊆ word := by
  intro c hc
  rw [← flatten_wordPieces size mode word]
  exact List.mem_flatten.mpr ⟨piece, h, hc⟩

theorem ne_nil_of_mem_wordPieces (hword : word ≠ []) (h : piece ∈ wordPieces size mode word) :
    piece ≠ [] := by
  unfold wordPieces at h
  split at h
  · exact ne_nil_of_mem_chunks h
  · exact List.mem_singleton.mp h ▸ hword

/-- Rows are filled by placing one word after the other. -/
theorem wrapWords_cons (size : Nat) (mode : WrapMode) (line word : List Char) :
    ∃ closed row, Placed size mode line word closed row ∧
      ∀ rest, wrapWords size mode line (word :: rest) =
        closed ++ wrapWords size mode row rest := by
  by_cases hroom : (appendWord line word).length ≤ size
  · refine ⟨[], appendWord line word, .fits hroom, fun rest => ?_⟩
    simp only [wrapWords, if_pos hroom, List.nil_append]
  · have hpieces := List.dropLast_concat_getLast (wordPieces_ne_nil size mode word)
    refine ⟨_, _, .breaks (Nat.lt_of_not_le hroom) hpieces.symm, fun rest => ?_⟩
    simp only [wrapWords, if_neg hroom, closedRow,
      List.getLast?_eq_some_getLast (wordPieces_ne_nil size mode word), Option.getD_some]

/-- What holds of the open row, and of all rows around each word that is placed, holds of all
rows. -/
theorem wrapWords_forall (ok : List Char → Prop)
    (hplaced : ∀ line, ok line → ∀ word ∈ words, ∀ closed row,
      Placed size mode line word closed row → (∀ piece ∈ closed, ok piece) ∧ ok row)
    (hline : ok line) : ∀ piece ∈ wrapWords size mode line words, ok piece := by
  induction words generalizing line with
  | nil =>
      intro piece hpiece
      exact List.mem_singleton.mp hpiece ▸ hline
  | cons word words ih =>
      obtain ⟨closed, row, hword, heq⟩ := wrapWords_cons size mode line word
      obtain ⟨hclosed, hrow⟩ := hplaced line hline word List.mem_cons_self closed row hword
      rw [heq words]
      intro piece hpiece
      rcases List.mem_append.mp hpiece with hmem | hmem
      · exact hclosed piece hmem
      · exact ih (fun line hline word hmem => hplaced line hline word
          (List.mem_cons_of_mem _ hmem)) hrow piece hmem

/-- The first row begins with what has been on the open row. -/
theorem wrapWords_head (size : Nat) (mode : WrapMode) (line : List Char)
    (words : List (List Char)) :
    ∃ first others, wrapWords size mode line words = first :: others ∧ line <+: first := by
  induction words generalizing line with
  | nil => exact ⟨line, [], rfl, List.prefix_rfl⟩
  | cons word words ih =>
      obtain ⟨closed, row, hplaced, heq⟩ := wrapWords_cons size mode line word
      obtain ⟨first, others, hfirst, hbegins⟩ := ih row
      rw [heq words, hfirst]
      by_cases hline : line = []
      · -- nothing has been on the row
        obtain ⟨piece, tail, hpiece⟩ := List.exists_cons_of_ne_nil
          (List.append_ne_nil_of_right_ne_nil closed (List.cons_ne_nil first others))
        exact ⟨piece, tail, hpiece, hline ▸ List.nil_prefix⟩
      · cases hplaced with
        | fits room =>
            refine ⟨first, others, rfl, List.IsPrefix.trans ?_ hbegins⟩
            rw [appendWord, if_neg hline]
            exact List.prefix_append _ _
        | breaks noRoom pieces =>
            rw [closedRow, if_neg hline]
            exact ⟨line, _, rfl, List.prefix_rfl⟩

/-! ## All rows -/

/-- No character but spaces is lost or moved. -/
theorem Placed.inked_eq (h : Placed size mode line word closed row) :
    inked closed.flatten ++ inked row = inked line ++ inked word := by
  cases h with
  | fits room => rw [List.flatten_nil, inked_nil, List.nil_append, inked_appendWord]
  | @breaks full last noRoom pieces =>
      have hword : inked full.flatten ++ inked row = inked word := by
        rw [← inked_append, ← flatten_wordPieces size mode word, pieces, List.flatten_append,
          List.flatten_singleton]
      rw [List.flatten_append, flatten_closedRow, inked_append, List.append_assoc, hword]

theorem inked_wrapWords (size : Nat) (mode : WrapMode) (line : List Char)
    (words : List (List Char)) :
    inked (wrapWords size mode line words).flatten = inked line ++ inked words.flatten := by
  induction words generalizing line with
  | nil => simp [wrapWords]
  | cons word words ih =>
      obtain ⟨closed, row, hplaced, heq⟩ := wrapWords_cons size mode line word
      rw [heq words, List.flatten_append, inked_append, ih, ← List.append_assoc,
        hplaced.inked_eq, List.flatten_cons, inked_append, List.append_assoc]

/-- If words are divided, no row is too long. -/
theorem Placed.length_le (hsize : 1 ≤ size) (hline : line.length ≤ size)
    (h : Placed size .wordChar line word closed row) :
    (∀ piece ∈ closed, piece.length ≤ size) ∧ row.length ≤ size := by
  cases h with
  | fits room => exact ⟨by simp, room⟩
  | @breaks full last noRoom pieces =>
      have hpieces : ∀ piece ∈ wordPieces size .wordChar word, piece.length ≤ size := by
        intro piece hpiece
        unfold wordPieces at hpiece
        split at hpiece
        next => exact length_le_of_mem_chunks hsize hpiece
        next hshort =>
          rw [List.mem_singleton.mp hpiece]
          simpa using hshort
      rw [pieces] at hpieces
      refine ⟨fun piece hpiece => ?_, hpieces _ (by simp)⟩
      rcases List.mem_append.mp hpiece with hmem | hmem
      · exact (mem_closedRow.mp hmem).1 ▸ hline
      · exact hpieces piece (List.mem_append_left _ hmem)

/-- If words are not divided, a row that is too long is a word. -/
theorem Placed.length_le_or_mem {all : List (List Char)} (hword : word ∈ all)
    (hline : line.length ≤ size ∨ line ∈ all) (h : Placed size .word line word closed row) :
    (∀ piece ∈ closed, piece.length ≤ size ∨ piece ∈ all) ∧ (row.length ≤ size ∨ row ∈ all) := by
  cases h with
  | fits room => exact ⟨by simp, .inl room⟩
  | @breaks full last noRoom pieces =>
      have hwhole : full ++ [row] = [] ++ [word] := by
        rw [← pieces, wordPieces, if_neg (by simp)]
        rfl
      obtain ⟨rfl, hrow⟩ := List.append_inj' hwhole rfl
      obtain rfl := List.singleton_inj.mp hrow
      refine ⟨fun piece hpiece => ?_, .inr hword⟩
      rw [List.append_nil] at hpiece
      exact (mem_closedRow.mp hpiece).1 ▸ hline

/-! ## Neighbouring rows -/

/-- Rows that leave no room for anything may be put before a chain. -/
theorem isChain_append_of_forall {α : Type} {R : α → α → Prop} {first second : List α}
    (hfirst : ∀ a ∈ first, ∀ b, R a b) (hsecond : second.IsChain R) :
    (first ++ second).IsChain R := by
  induction first with
  | nil => exact hsecond
  | cons a first ih =>
      refine List.IsChain.cons (ih fun b hb => hfirst b (List.mem_cons_of_mem _ hb)) ?_
      intro b _
      exact hfirst a List.mem_cons_self b

theorem hasNoRoom_of_full (hrow : size ≤ row.length) (next : List Char) :
    HasNoRoom size row next := by
  unfold HasNoRoom
  omega

/-- The row after a closed one begins with as much of the word as a row can hold. -/
theorem hasNoRoom_of_breaks (hsize : 1 ≤ size) (hword : ' ' ∉ word) (hline : line ≠ [])
    (noRoom : size < (appendWord line word).length)
    (hpieces : wordPieces size mode word = full ++ [row]) {next : List Char}
    (hnext : next ∈ (full ++ wrapWords size mode row rest).head?) :
    HasNoRoom size line next := by
  have hsizes : size < line.length + 1 + word.length := by
    rw [appendWord, if_neg hline, List.length_append, List.length_cons] at noRoom
    omega
  have hspace : ∀ piece ∈ full ++ [row], ' ' ∉ piece := by
    intro piece hpiece hmem
    exact hword (subset_of_mem_wordPieces (hpieces ▸ hpiece) hmem)
  cases full with
  | nil =>
      -- the word begins the next row as a whole
      have hrow : row = word := by
        have hflat := flatten_wordPieces size mode word
        rwa [hpieces, List.nil_append, List.flatten_singleton] at hflat
      obtain ⟨first, others, hfirst, hbegins⟩ := wrapWords_head size mode row rest
      rw [List.nil_append, hfirst, List.head?_cons, Option.mem_some_iff] at hnext
      have hlength := length_le_firstWord (hnext ▸ hrow ▸ hbegins) hword
      unfold HasNoRoom
      omega
  | cons first others =>
      rw [List.cons_append, List.head?_cons, Option.mem_some_iff] at hnext
      subst hnext
      have hfull := length_of_mem_full hsize hpieces List.mem_cons_self
      have hlength := length_le_firstWord List.prefix_rfl (hspace first (by simp))
      have hpos := List.length_pos_iff.mpr hline
      unfold HasNoRoom
      omega

/-- The first word of each row had no room on the row before. -/
theorem isChain_wrapWords (hsize : 1 ≤ size) (hwords : ∀ word ∈ words, ' ' ∉ word) :
    (wrapWords size mode line words).IsChain (HasNoRoom size) := by
  induction words generalizing line with
  | nil => exact List.IsChain.singleton line
  | cons word words ih =>
      obtain ⟨closed, row, hplaced, heq⟩ := wrapWords_cons size mode line word
      have hrest : ∀ {line}, (wrapWords size mode line words).IsChain (HasNoRoom size) :=
        ih fun word hword => hwords word (List.mem_cons_of_mem _ hword)
      rw [heq words]
      cases hplaced with
      | fits room => exact hrest
      | @breaks full last noRoom pieces =>
          have hfull : (full ++ wrapWords size mode row words).IsChain (HasNoRoom size) :=
            isChain_append_of_forall (fun piece hpiece next =>
              hasNoRoom_of_full (length_of_mem_full hsize pieces hpiece).ge next) hrest
          rw [List.append_assoc, closedRow]
          split
          next => exact hfull
          next hline =>
            refine List.IsChain.cons hfull fun next hnext => ?_
            exact hasNoRoom_of_breaks hsize (hwords word List.mem_cons_self) hline noRoom pieces
              hnext

/-! ## Whole lines -/

theorem wrapLine_of_fits (h : mode = .never ∨ line.length ≤ size) :
    wrapLine size mode line = [line] := by
  rw [wrapLine, if_pos h]

theorem wrapLine_of_char (hlong : size < line.length) :
    wrapLine size .char line = chunks size line := by
  rw [wrapLine, if_neg (by simp; omega), if_pos rfl]

theorem wrapLine_of_atSpaces (hmode : mode.AtSpaces) (hlong : size < line.length) :
    wrapLine size mode line = wrapWords size mode [] (line.splitOn ' ') := by
  have hbroken : ¬(mode = .never ∨ line.length ≤ size) := by
    rcases hmode with rfl | rfl <;> simp <;> omega
  have hwords : mode ≠ .char := by
    rcases hmode with rfl | rfl <;> simp
  rw [wrapLine, if_neg hbroken, if_neg hwords]

theorem length_le_of_mem_wrapLine (hsize : 1 ≤ size) (hmode : mode = .char ∨ mode = .wordChar)
    (h : piece ∈ wrapLine size mode line) : piece.length ≤ size := by
  rcases Nat.lt_or_ge size line.length with hlong | hfits
  · rcases hmode with rfl | rfl
    · rw [wrapLine_of_char hlong] at h
      exact length_le_of_mem_chunks hsize h
    · rw [wrapLine_of_atSpaces (.inr rfl) hlong] at h
      exact wrapWords_forall (fun row => row.length ≤ size)
        (fun _ hline _ _ _ _ hplaced => hplaced.length_le hsize hline) (Nat.zero_le _) piece h
  · rw [wrapLine_of_fits (.inr hfits)] at h
    exact List.mem_singleton.mp h ▸ hfits

theorem mem_words_of_mem_wrapLine (h : piece ∈ wrapLine size .word line)
    (hpiece : size < piece.length) : piece ∈ line.splitOn ' ' := by
  have hlong : size < line.length := by
    refine Nat.lt_of_not_le fun hfits => ?_
    rw [wrapLine_of_fits (.inr hfits)] at h
    exact absurd hpiece (List.mem_singleton.mp h ▸ Nat.not_lt.mpr hfits)
  rw [wrapLine_of_atSpaces (.inl rfl) hlong] at h
  have hrow : piece.length ≤ size ∨ piece ∈ line.splitOn ' ' :=
    wrapWords_forall (fun row => row.length ≤ size ∨ row ∈ line.splitOn ' ')
      (fun _ hline _ hword _ _ hplaced => hplaced.length_le_or_mem hword hline)
      (.inl (Nat.zero_le _)) piece h
  exact hrow.resolve_left (Nat.not_le.mpr hpiece)

theorem flatten_wrapLine_char (size : Nat) (line : List Char) :
    (wrapLine size .char line).flatten = line := by
  rcases Nat.lt_or_ge size line.length with hlong | hfits
  · rw [wrapLine_of_char hlong, flatten_chunks]
  · rw [wrapLine_of_fits (.inr hfits), List.flatten_singleton]

theorem length_of_mem_dropLast_wrapLine (hsize : 1 ≤ size)
    (h : piece ∈ (wrapLine size .char line).dropLast) : piece.length = size := by
  rcases Nat.lt_or_ge size line.length with hlong | hfits
  · rw [wrapLine_of_char hlong] at h
    exact length_of_mem_dropLast_chunks hsize h
  · rw [wrapLine_of_fits (.inr hfits)] at h
    cases h

theorem inked_wrapLine (hmode : mode.AtSpaces) (size : Nat) (line : List Char) :
    inked (wrapLine size mode line).flatten = inked line := by
  rcases Nat.lt_or_ge size line.length with hlong | hfits
  · rw [wrapLine_of_atSpaces hmode hlong, inked_wrapWords, inked_flatten_words, inked_nil,
      List.nil_append]
  · rw [wrapLine_of_fits (.inr hfits), List.flatten_singleton]

theorem isChain_wrapLine (hsize : 1 ≤ size) (hmode : mode.AtSpaces) :
    (wrapLine size mode line).IsChain (HasNoRoom size) := by
  rcases Nat.lt_or_ge size line.length with hlong | hfits
  · rw [wrapLine_of_atSpaces hmode hlong]
    exact isChain_wrapWords hsize fun word hword => space_notMem_of_mem_words hword
  · rw [wrapLine_of_fits (.inr hfits)]
    exact List.IsChain.singleton line

/-- **Lines are broken without loss, and no piece could have held more.**  Pieces fit the size,
unless words are not divided and the piece is a word.  Chunks follow one another without a gap and
are full but for the last one.  At spaces nothing but spaces is lost, and the word at which a piece
begins had no room on the piece before.  A line that fits is not broken. -/
theorem pieces_are_greedy (hsize : 1 ≤ size) (mode : WrapMode) (line : List Char) :
    let pieces := wrapLine size mode line
    (mode = .char ∨ mode = .wordChar → ∀ piece ∈ pieces, piece.length ≤ size) ∧
    (mode = .word → ∀ piece ∈ pieces, size < piece.length →
      piece ∈ line.splitOn ' ' ∧ ' ' ∉ piece) ∧
    (mode = .char → pieces.flatten = line ∧ ∀ piece ∈ pieces.dropLast, piece.length = size) ∧
    (mode.AtSpaces → inked pieces.flatten = inked line) ∧
    (mode.AtSpaces → ∀ k (hk : k + 1 < pieces.length), HasNoRoom size pieces[k] pieces[k + 1]) ∧
    (mode = .never ∨ line.length ≤ size → pieces = [line]) := by
  intro pieces
  refine ⟨?_, ?_, ?_, ?_, ?_, wrapLine_of_fits⟩
  · intro hmode piece hpiece
    exact length_le_of_mem_wrapLine hsize hmode hpiece
  · rintro rfl piece hpiece hlong
    have hword := mem_words_of_mem_wrapLine hpiece hlong
    exact ⟨hword, space_notMem_of_mem_words hword⟩
  · rintro rfl
    exact ⟨flatten_wrapLine_char size line, fun _ => length_of_mem_dropLast_wrapLine hsize⟩
  · intro hmode
    exact inked_wrapLine hmode size line
  · intro hmode
    exact List.isChain_iff_getElem.mp (isChain_wrapLine hsize hmode)

/-- The third word begins a row, because it has no room after the second one. -/
theorem third_word_has_no_room :
    let line := ['o', 'n', 'e', ' ', 't', 'w', 'o', ' ', 't', 'h', 'r', 'e', 'e']
    1 ≤ 7 ∧ WrapMode.AtSpaces .word ∧
      wrapLine 7 .word line = [['o', 'n', 'e', ' ', 't', 'w', 'o'], ['t', 'h', 'r', 'e', 'e']] ∧
      HasNoRoom 7 ['o', 'n', 'e', ' ', 't', 'w', 'o'] ['t', 'h', 'r', 'e', 'e'] := by
  intro line
  have hsize : 1 ≤ 7 := by decide
  have hmode : WrapMode.AtSpaces .word := .inl rfl
  have hpieces : wrapLine 7 .word line =
      [['o', 'n', 'e', ' ', 't', 'w', 'o'], ['t', 'h', 'r', 'e', 'e']] := by
    decide
  obtain ⟨-, -, -, -, hgreedy, -⟩ := pieces_are_greedy hsize .word line
  have hroom := hgreedy hmode 0 (by rw [hpieces]; decide)
  simp only [hpieces] at hroom
  exact ⟨hsize, hmode, hpieces, hroom⟩

end Captioning
