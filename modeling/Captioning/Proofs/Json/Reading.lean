import Captioning.Proofs.Json.Scanning
import Captioning.Proofs.Json.Spelling

/-!
# Whatever spells a value is read as it

A text that spells a value is read as this value, whatever blanks stand in it, and the reader stops
where the value ends.

## Strategy

Every token but the numbers shows where it ends, and what stands after a value inside a text
ends a number: it is a blank, a comma or a closing bracket.  The bound of the readers decreases
by one with each value and each element of a row, and each of them takes at least one character;
so twice the length of what is read is enough.
-/

namespace Captioning.Json

open Decimal

variable {c : Char} {j : Json} {items : List Json} {members : List (Option String × Json)}
  {cs before after rest part row : List Char} {bound : Nat}

/-! ## What stands around values -/

theorem skipBlanks_append (h : Blank before) (cs : List Char) :
    skipBlanks (before ++ cs) = skipBlanks cs :=
  List.dropWhile_append_of_pos h

theorem skipBlanks_cons (h : isBlank c = false) (cs : List Char) :
    skipBlanks (c :: cs) = c :: cs :=
  List.dropWhile_cons_of_neg (by simp [h])

theorem skipBlanks_of_blank (h : Blank cs) : skipBlanks cs = [] := by
  have hdrop := skipBlanks_append h []
  rwa [List.append_nil] at hdrop

/-- What may stand after a value: nothing, or a blank, a comma or a closing bracket. -/
def Follows (rest : List Char) : Prop :=
  ∀ c ∈ rest.head?, isBlank c = true ∨ c = ',' ∨ c = ']' ∨ c = '\x7d'

theorem Follows.endsNumber (h : Follows rest) : EndsNumber rest := by
  intro c hc
  rcases h c hc with hblank | rfl | rfl | rfl
  · simp only [isBlank, Bool.or_eq_true, decide_eq_true_eq] at hblank
    rcases hblank with ((rfl | rfl) | rfl) | rfl <;> decide
  all_goals decide

theorem follows_append (hafter : Blank after) (h : Follows rest) : Follows (after ++ rest) := by
  cases after with
  | nil => exact h
  | cons c after =>
      rintro d hd
      obtain rfl : c = d := by simpa using hd
      exact .inl (hafter c List.mem_cons_self)

theorem follows_comma (rest : List Char) : Follows (',' :: rest) := by
  rintro c hc
  obtain rfl : ',' = c := by simpa using hc
  exact .inr (.inl rfl)

theorem follows_bracket (rest : List Char) : Follows (']' :: rest) := by
  rintro c hc
  obtain rfl : ']' = c := by simpa using hc
  exact .inr (.inr (.inl rfl))

theorem follows_brace (rest : List Char) : Follows ('\x7d' :: rest) := by
  rintro c hc
  obtain rfl : '\x7d' = c := by simpa using hc
  exact .inr (.inr (.inr rfl))

/-! ## How spellings begin -/

/-- Characters that may begin a value. -/
def Begins (c : Char) : Prop :=
  isBlank c = false ∧ c ≠ ']'

theorem begins_of_isDigit (h : c = '-' ∨ isDigit c = true) : Begins c := by
  constructor
  · rw [Bool.eq_false_iff]
    intro hblank
    simp only [isBlank, Bool.or_eq_true, decide_eq_true_eq] at hblank
    rcases hblank with ((rfl | rfl) | rfl) | rfl <;> revert h <;> decide
  · rintro rfl
    revert h
    decide

theorem Spelled.begins (h : Spelled j cs) : ∃ c r, cs = c :: r ∧ Begins c := by
  cases h with
  | number hn =>
      obtain ⟨d, ds, hchars, hd⟩ := exists_chars_eq_cons hn
      exact ⟨d, ds, hchars, begins_of_isDigit hd⟩
  | _ => exact ⟨_, _, rfl, rfl, by decide⟩

theorem exists_quoted_eq_cons (s : List Char) : ∃ c r, quoted s = c :: r ∧ isBlank c = false :=
  ⟨'"', _, rfl, rfl⟩

theorem Padded.skipBlanks_eq (h : Padded cs part) (hcs : ∃ c r, cs = c :: r ∧ isBlank c = false)
    (rest : List Char) :
    ∃ after, Blank after ∧ skipBlanks (part ++ rest) = cs ++ (after ++ rest) := by
  obtain ⟨before, after, hbefore, hafter, rfl⟩ := h
  obtain ⟨c, r, rfl, hc⟩ := hcs
  refine ⟨after, hafter, ?_⟩
  rw [List.append_assoc, List.append_assoc, skipBlanks_append hbefore, List.cons_append,
    skipBlanks_cons hc]

theorem Padded.length_le (h : Padded cs part) : cs.length ≤ part.length := by
  obtain ⟨before, after, -, -, rfl⟩ := h
  simp only [List.length_append]
  omega

/-- The text of a row begins with that of its first item. -/
theorem SpelledItems.begins (h : SpelledItems items row) (rest : List Char) :
    ∃ c r, skipBlanks (row ++ rest) = c :: r ∧ c ≠ ']' := by
  have hfirst : ∃ item cs part tail, Spelled item cs ∧ Padded cs part ∧ row = part ++ tail := by
    cases h with
    | last h hpart => exact ⟨_, _, _, [], h, hpart, (List.append_nil _).symm⟩
    | next h hpart _ => exact ⟨_, _, _, _, h, hpart, rfl⟩
  obtain ⟨item, cs, part, tail, hitem, hpart, rfl⟩ := hfirst
  obtain ⟨c, r, rfl, hc⟩ := hitem.begins
  obtain ⟨after, -, hskip⟩ := hpart.skipBlanks_eq ⟨c, r, rfl, hc.1⟩ (tail ++ rest)
  exact ⟨c, _, by rw [List.append_assoc, hskip]; rfl, hc.2⟩

/-- The text of a row of members begins with a quote. -/
theorem SpelledMembers.begins (h : SpelledMembers members row) (rest : List Char) :
    ∃ c r, skipBlanks (row ++ rest) = c :: r ∧ c ≠ '\x7d' := by
  have hfirst : ∃ name label tail, Padded (quoted name) label ∧ row = label ++ tail := by
    cases h with
    | last hlabel _ _ => exact ⟨_, _, _, hlabel, rfl⟩
    | next hlabel _ _ _ => exact ⟨_, _, _, hlabel, List.append_assoc _ _ _⟩
  obtain ⟨name, label, tail, hlabel, rfl⟩ := hfirst
  obtain ⟨after, -, hskip⟩ := hlabel.skipBlanks_eq (exists_quoted_eq_cons _) (tail ++ rest)
  exact ⟨'"', _, by rw [List.append_assoc, hskip]; rfl, by decide⟩

/-! ## Names -/

theorem quoted_append (s rest : List Char) :
    quoted s ++ rest = '"' :: (s.flatMap escapeChar ++ '"' :: rest) := by
  rw [quoted, List.cons_append, List.cons_append, List.append_assoc, List.singleton_append]

theorem readName?_append {name : String} {label : List Char}
    (h : Padded (quoted name.toList) label) (rest : List Char) :
    readName? (label ++ ':' :: rest) = some (some name, rest) := by
  obtain ⟨after, hafter, hskip⟩ := h.skipBlanks_eq (exists_quoted_eq_cons _) (':' :: rest)
  rw [quoted_append] at hskip
  simp only [readName?, hskip, readString?_escaped_append, Option.bind_eq_bind, Option.bind_some,
    skipBlanks_append hafter, skipBlanks_cons (c := ':') rfl]

/-! ## Values -/

theorem readValue?_scalar {input r : List Char} (hskip : skipBlanks input = c :: r)
    (hbracket : c ≠ '[') (hbrace : c ≠ '\x7b') :
    readValue? (bound + 1) input = readScalar? (c :: r) := by
  rw [readValue?, hskip]
  split
  next heq => exact absurd (List.cons.inj heq).1 hbracket
  next heq => exact absurd (List.cons.inj heq).1 hbrace
  next => rfl

theorem readValue?_array {input r : List Char} (hskip : skipBlanks input = '[' :: r)
    (hr : ∃ c s, skipBlanks r = c :: s ∧ c ≠ ']') :
    readValue? (bound + 1) input =
      (readItems? bound r).map fun (items, rest) => (.array items, rest) := by
  obtain ⟨c, s, hr, hc⟩ := hr
  simp only [readValue?, hskip, hr]
  split
  next heq => exact absurd (List.cons.inj heq).1 hc
  next => rfl

theorem readValue?_object {input r : List Char} (hskip : skipBlanks input = '\x7b' :: r)
    (hr : ∃ c s, skipBlanks r = c :: s ∧ c ≠ '\x7d') :
    readValue? (bound + 1) input =
      (readMembers? bound r).map fun (members, rest) => (.object members, rest) := by
  obtain ⟨c, s, hr, hc⟩ := hr
  simp only [readValue?, hskip, hr]
  split
  next heq => exact absurd (List.cons.inj heq).1 hc
  next => rfl

/-- The characters of a number are those of no other scalar. -/
theorem readScalar?_number {n : Numeral} (hn : n.IsGrammatical) (hrest : EndsNumber rest) :
    readScalar? (n.chars ++ rest) = some (.number n, rest) := by
  have hread := readNumber?_chars_append hn hrest
  obtain ⟨d, ds, hchars, hd⟩ := exists_chars_eq_cons hn
  rw [hchars, List.cons_append] at hread ⊢
  unfold readScalar?
  split
  iterate 4
    next heq =>
      obtain rfl := (List.cons.inj heq).1
      exact absurd hd (by decide)
  next => rw [hread, Option.map_some]

/-- A value that is read without the blanks around it is read with them, up to those after it. -/
theorem Padded.readValue?_append (hpart : Padded cs part) (hspelled : Spelled j cs)
    (hbound : 2 * part.length ≤ bound) (hrest : Follows rest)
    (hread : ∀ {input after}, skipBlanks input = cs ++ after → Follows after →
      2 * cs.length ≤ bound → readValue? bound input = some (j, after)) :
    ∃ after, Blank after ∧ readValue? bound (part ++ rest) = some (j, after ++ rest) := by
  obtain ⟨c, r, hcs, hc⟩ := hspelled.begins
  obtain ⟨after, hafter, hskip⟩ := hpart.skipBlanks_eq ⟨c, r, hcs, hc.1⟩ rest
  have hlength := hpart.length_le
  exact ⟨after, hafter, hread hskip (follows_append hafter hrest) (by omega)⟩

/-! ## The recursion -/

mutual

/-- A value is read from any text that begins with one of its spellings after blanks. -/
theorem Spelled.read {j : Json} {cs rest input : List Char} {bound : Nat} (h : Spelled j cs)
    (hinput : skipBlanks input = cs ++ rest) (hrest : Follows rest)
    (hbound : 2 * cs.length ≤ bound) : readValue? bound input = some (j, rest) := by
  obtain ⟨bound, rfl⟩ : ∃ b, bound = b + 1 := by
    obtain ⟨c, r, rfl, -⟩ := h.begins
    exact Nat.exists_eq_succ_of_ne_zero (by simp at hbound; omega)
  match h with
  | .null => exact readValue?_scalar hinput (by decide) (by decide)
  | .yes => exact readValue?_scalar hinput (by decide) (by decide)
  | .no => exact readValue?_scalar hinput (by decide) (by decide)
  | .number hn =>
      have hread := readScalar?_number hn hrest.endsNumber
      obtain ⟨d, ds, hchars, hd⟩ := exists_chars_eq_cons hn
      rw [hchars, List.cons_append] at hinput hread
      rw [readValue?_scalar hinput, hread]
      all_goals
        rintro rfl
        revert hd
        decide
  | .text s =>
      rw [quoted_append] at hinput
      rw [readValue?_scalar hinput (by decide) (by decide), readScalar?,
        readString?_escaped_append, Option.map_some]
  | .noItems hblank =>
      simp only [readValue?, hinput, List.cons_append, List.append_assoc,
        skipBlanks_append hblank, List.nil_append, skipBlanks_cons (c := ']') rfl]
  | .array hrow =>
      rw [List.cons_append, List.append_assoc, List.singleton_append] at hinput
      have hitems : readItems? bound (_ ++ ']' :: rest) = _ := hrow.read (by simp at hbound; omega)
      rw [readValue?_array hinput (hrow.begins _), hitems, Option.map_some]
  | .noMembers hblank =>
      simp only [readValue?, hinput, List.cons_append, List.append_assoc,
        skipBlanks_append hblank, List.nil_append, skipBlanks_cons (c := '\x7d') rfl]
  | .object hrow =>
      rw [List.cons_append, List.append_assoc, List.singleton_append] at hinput
      have hmembers : readMembers? bound (_ ++ '\x7d' :: rest) = _ :=
        hrow.read (by simp at hbound; omega)
      rw [readValue?_object hinput (hrow.begins _), hmembers, Option.map_some]

theorem SpelledItems.read {items : List Json} {row rest : List Char} {bound : Nat}
    (h : SpelledItems items row) (hbound : 2 * row.length < bound) :
    readItems? bound (row ++ ']' :: rest) = some (items, rest) := by
  obtain ⟨bound, rfl⟩ := Nat.exists_eq_succ_of_ne_zero (Nat.ne_of_gt (Nat.zero_lt_of_lt hbound))
  match h with
  | .last hitem hpart =>
      obtain ⟨after, hafter, hread⟩ :=
        hpart.readValue?_append hitem (Nat.lt_succ_iff.mp hbound) (follows_bracket rest) hitem.read
      simp only [readItems?, hread, Option.bind_eq_bind, Option.bind_some,
        skipBlanks_append hafter, skipBlanks_cons (c := ']') rfl]
      rfl
  | @SpelledItems.next _ _ _ part row hitem hpart hrow =>
      simp only [List.length_append, List.length_cons] at hbound
      have hbounds : 2 * part.length ≤ bound ∧ 2 * row.length < bound := by omega
      obtain ⟨after, hafter, hread⟩ :=
        hpart.readValue?_append hitem hbounds.1 (follows_comma (row ++ ']' :: rest)) hitem.read
      have hitems : readItems? bound (_ ++ ']' :: rest) = _ := hrow.read hbounds.2
      simp only [List.append_assoc, List.cons_append, readItems?, hread, Option.bind_eq_bind,
        Option.bind_some, skipBlanks_append hafter, skipBlanks_cons (c := ',') rfl, hitems]
      rfl

theorem SpelledMembers.read {members : List (Option String × Json)} {row rest : List Char}
    {bound : Nat} (h : SpelledMembers members row) (hbound : 2 * row.length < bound) :
    readMembers? bound (row ++ '\x7d' :: rest) = some (members, rest) := by
  obtain ⟨bound, rfl⟩ := Nat.exists_eq_succ_of_ne_zero (Nat.ne_of_gt (Nat.zero_lt_of_lt hbound))
  match h with
  | @SpelledMembers.last _ _ _ _ part hlabel hvalue hpart =>
      simp only [List.length_append, List.length_cons] at hbound
      have hpartBound : 2 * part.length ≤ bound := by omega
      obtain ⟨after, hafter, hread⟩ :=
        hpart.readValue?_append hvalue hpartBound (follows_brace rest) hvalue.read
      simp only [List.append_assoc, List.cons_append, readMembers?, readName?_append hlabel, hread,
        Option.bind_eq_bind, Option.bind_some, skipBlanks_append hafter,
        skipBlanks_cons (c := '\x7d') rfl]
      rfl
  | @SpelledMembers.next _ _ _ _ _ part row hlabel hvalue hpart hrow =>
      simp only [List.length_append, List.length_cons] at hbound
      have hbounds : 2 * part.length ≤ bound ∧ 2 * row.length < bound := by omega
      obtain ⟨after, hafter, hread⟩ :=
        hpart.readValue?_append hvalue hbounds.1 (follows_comma (row ++ '\x7d' :: rest)) hvalue.read
      have hmembers : readMembers? bound (_ ++ '\x7d' :: rest) = _ := hrow.read hbounds.2
      simp only [List.append_assoc, List.cons_append, readMembers?, readName?_append hlabel, hread,
        Option.bind_eq_bind, Option.bind_some, skipBlanks_append hafter,
        skipBlanks_cons (c := ',') rfl, hmembers]
      rfl

end

/-- A text is read as the value that it spells. -/
theorem Spells.parse?_eq {text : String} (h : Spells text j) : parse? text = some j := by
  obtain ⟨cs, hspelled, hpadded⟩ := h
  have hnothing : Follows [] := fun c hc => nomatch hc
  have hbound : 2 * text.toList.length ≤ 2 * text.toList.length + 2 := Nat.le_add_right _ _
  obtain ⟨after, hafter, hread⟩ :=
    hpadded.readValue?_append hspelled hbound hnothing hspelled.read
  simp only [List.append_nil] at hread
  simp only [parse?, hread, skipBlanks_of_blank hafter, if_true]

end Captioning.Json
