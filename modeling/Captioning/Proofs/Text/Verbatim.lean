import Captioning.Proofs.Text.Escaping
import Captioning.Render.BlockGlyphs
import Captioning.Text.Payload
import Mathlib.Data.List.DropRight

/-!
# Plain text is drawn verbatim

A payload of plain text is escaped, trimmed and spaced before it comes to the rasterizer, which
takes it for markup.  None of these steps gets in the way of another: they can be put in front of
the escaping, and what is drawn is the text of the payload itself.
-/

namespace Captioning

open Markup

/-! ## Spacing and escaping -/

theorem spaced_append (first second : List Char) :
    spaced (first ++ second) = spaced first ++ spaced second :=
  List.map_append

private theorem spaced_entity {name : List Char} {c : Char} (h : (name, c) ∈ entities) :
    spaced ('&' :: name) = '&' :: name ∧ spaced [c] = [c] := by
  simp only [entities, List.mem_cons, Prod.mk.injEq, List.not_mem_nil, or_false] at h
  rcases h with ⟨rfl, rfl⟩ | ⟨rfl, rfl⟩ | ⟨rfl, rfl⟩ | ⟨rfl, rfl⟩ | ⟨rfl, rfl⟩ <;>
    exact ⟨rfl, rfl⟩

theorem spaced_escapeChar (c : Char) : spaced (escapeChar c) = escape (spaced [c]) := by
  rcases escapeChar_cases c with ⟨hself, -⟩ | ⟨name, hentity, hescaped⟩
  · rw [hself]
    -- a tab or a carriage return becomes a space, which needs no escape
    simp only [spaced, List.map_cons, List.map_nil]
    split
    · rfl
    · rw [escape, List.flatMap_cons, List.flatMap_nil, List.append_nil, hself]
  · rw [hescaped, (spaced_entity hentity).1, (spaced_entity hentity).2, escape,
      List.flatMap_cons, List.flatMap_nil, List.append_nil, hescaped]

theorem spaced_escape (cs : List Char) : spaced (escape cs) = escape (spaced cs) := by
  induction cs with
  | nil => rfl
  | cons c cs ih =>
      calc spaced (escape (c :: cs)) = spaced (escapeChar c) ++ spaced (escape cs) :=
            spaced_append _ _
        _ = escape (spaced [c]) ++ escape (spaced cs) := by rw [spaced_escapeChar, ih]
        _ = escape (spaced (c :: cs)) := (escape_append _ _).symm

namespace TextPayload

variable {cs : List Char}

/-! ## Trimming and escaping -/

theorem trimBreaks_eq_rdropWhile (cs : List Char) : trimBreaks cs = cs.rdropWhile isLineBreak :=
  rfl

/-- What is trimmed does not end in a line break. -/
theorem isLineBreak_getLast_trimBreaks (h : trimBreaks cs ≠ []) :
    isLineBreak ((trimBreaks cs).getLast h) = false :=
  Bool.eq_false_iff.mpr (List.rdropWhile_last_not isLineBreak cs h)

/-- Neither a character nor what stands for it ends in a line break, unless it is one. -/
private theorem escapeChar_last (c : Char) :
    escapeChar c = [c] ∨ isLineBreak c = false ∧
      ∃ front last, escapeChar c = front ++ [last] ∧ isLineBreak last = false := by
  rcases escapeChar_cases c with ⟨hself, -⟩ | ⟨name, hentity, hescaped⟩
  · exact .inl hself
  · rw [hescaped]
    simp only [entities, List.mem_cons, Prod.mk.injEq, List.not_mem_nil, or_false] at hentity
    rcases hentity with ⟨rfl, rfl⟩ | ⟨rfl, rfl⟩ | ⟨rfl, rfl⟩ | ⟨rfl, rfl⟩ | ⟨rfl, rfl⟩
    · exact .inr ⟨rfl, ['&', 'a', 'm', 'p'], ';', rfl, rfl⟩
    · exact .inr ⟨rfl, ['&', 'l', 't'], ';', rfl, rfl⟩
    · exact .inr ⟨rfl, ['&', 'g', 't'], ';', rfl, rfl⟩
    · exact .inr ⟨rfl, ['&', 'a', 'p', 'o', 's'], ';', rfl, rfl⟩
    · exact .inr ⟨rfl, ['&', 'q', 'u', 'o', 't'], ';', rfl, rfl⟩

theorem trimBreaks_escape (cs : List Char) : trimBreaks (escape cs) = escape (trimBreaks cs) := by
  simp only [trimBreaks_eq_rdropWhile]
  induction cs using List.reverseRecOn with
  | nil => rfl
  | append_singleton cs c ih =>
      have hsnoc : escape (cs ++ [c]) = escape cs ++ escapeChar c := by
        rw [escape_append, escape_cons, escape_nil, List.append_nil]
      by_cases hbreak : isLineBreak c = true
      · -- a line break is not escaped, so it is dropped on both sides
        rcases escapeChar_last c with hself | ⟨hkept, -⟩
        · rw [hsnoc, hself, List.rdropWhile_concat_pos _ _ _ hbreak,
            List.rdropWhile_concat_pos _ _ _ hbreak, ih]
        · rw [hkept] at hbreak
          cases hbreak
      · rw [List.rdropWhile_concat_neg _ _ _ hbreak, hsnoc]
        rcases escapeChar_last c with hself | ⟨-, front, last, hfront, hlast⟩
        · rw [hself, List.rdropWhile_concat_neg _ _ _ hbreak]
        · rw [hfront, ← List.append_assoc, List.rdropWhile_concat_neg _ _ _ (by simp [hlast])]

/-! ## Payloads -/

/-- No payload is prepared as an empty text, or as one that ends in a line break. -/
theorem exists_prepare (p : TextPayload) :
    ∃ front last, p.prepare = front ++ [last] ∧ isLineBreak last = false := by
  unfold prepare
  dsimp only
  split
  · exact ⟨[], ' ', rfl, rfl⟩
  next hnonempty =>
    have hne : trimBreaks p.markupChars ≠ [] := by simpa using hnonempty
    exact ⟨_, _, (List.dropLast_append_getLast hne).symm, isLineBreak_getLast_trimBreaks hne⟩

/-- The text that plain bytes stand for: repaired, without line breaks at the end, tabs and
carriage returns turned into spaces; a space if nothing is left. -/
def verbatim (bytes : List UInt8) : List Char :=
  let text := trimBreaks (Utf8.repair bytes)
  if text.isEmpty then [' '] else spaced text

theorem plain_spaced_prepare (bytes : List UInt8) :
    plain (spaced (prepare ⟨bytes, .plain⟩)) = verbatim bytes := by
  have hprepare : prepare ⟨bytes, .plain⟩ =
      let text := escape (trimBreaks (Utf8.repair bytes))
      if text.isEmpty then [' '] else text := by
    rw [← trimBreaks_escape]
    rfl
  rw [hprepare]
  unfold verbatim
  simp only [List.isEmpty_iff, escape_eq_nil_iff]
  split
  · rw [spaced, List.map_cons, List.map_nil, if_neg (by decide),
      plain_literal (by decide) (by decide), plain]
  · rw [spaced_escape, plain_escape]

/-- **Plain text is drawn verbatim.**  What is shown of a plain payload is its repaired text,
trimmed and spaced; it is never read as markup, so its image is that of this text with markup
turned off.  No payload is prepared as an empty text, or as one that ends in a line break. -/
theorem plain_text_is_drawn_verbatim (bytes : List UInt8) :
    plain (spaced (prepare ⟨bytes, .plain⟩)) = verbatim bytes ∧
      (∀ style : TextStyle, style.markup = true →
        blockGlyphs.rasterize (spaced (prepare ⟨bytes, .plain⟩)) style =
          blockGlyphs.rasterize (verbatim bytes) { style with markup := false }) ∧
      ∀ format, ∃ front last, prepare ⟨bytes, format⟩ = front ++ [last] ∧
        last ≠ '\n' ∧ last ≠ '\r' := by
  refine ⟨plain_spaced_prepare bytes, fun style hmarkup => ?_, fun format => ?_⟩
  · have hshown : shownText (spaced (prepare ⟨bytes, .plain⟩)) style =
        shownText (verbatim bytes) { style with markup := false } := by
      rw [shownText, if_pos hmarkup, plain_spaced_prepare]
      rfl
    -- besides the shown text, nothing of an image depends on whether it was markup
    simp only [blockGlyphs, drawBlocks, layoutLines, hshown]
    rfl
  · obtain ⟨front, last, hprepared, hlast⟩ := exists_prepare ⟨bytes, format⟩
    exact ⟨front, last, hprepared, by simpa [isLineBreak] using hlast⟩

end TextPayload

end Captioning
