import Captioning.Proofs.Text.Escaping
import Mathlib.Data.List.TakeWhile

/-!
# What markup shows

Markup is read from left to right.  An angle bracket opens a tag if there is one later on that
closes it, an ampersand is read as an entity if the name of one follows, and all else stands for
itself.  `Markup.Shows` has one rule for each of these cases.  By these rules every markup shows
one text and no other, the one that `Markup.plain` computes.
-/

namespace Captioning.Markup

/-- The five entities: what stands after the ampersand, and what is shown for it. -/
inductive Entity : List Char → Char → Prop
  | amp : Entity ['a', 'm', 'p', ';'] '&'
  | lt : Entity ['l', 't', ';'] '<'
  | gt : Entity ['g', 't', ';'] '>'
  | apos : Entity ['a', 'p', 'o', 's', ';'] '\x27'
  | quot : Entity ['q', 'u', 'o', 't', ';'] '"'

/-- What markup shows when it is read from left to right. -/
inductive Shows : List Char → List Char → Prop
  | nothing : Shows [] []
  /-- A tag goes up to the first bracket that closes it. -/
  | tag {inside rest text : List Char} (inner : '>' ∉ inside) (after : Shows rest text) :
      Shows ('<' :: (inside ++ '>' :: rest)) text
  /-- A bracket that no other closes keeps the whole rest as it stands. -/
  | unclosed {rest : List Char} (unclosed : '>' ∉ rest) : Shows ('<' :: rest) ('<' :: rest)
  | entity {name rest text : List Char} {c : Char} (entity : Entity name c)
      (after : Shows rest text) : Shows ('&' :: (name ++ rest)) (c :: text)
  /-- An ampersand that begins no entity stands for itself. -/
  | ampersand {rest text : List Char} (bare : ∀ name c, Entity name c → ¬ name <+: rest)
      (after : Shows rest text) : Shows ('&' :: rest) ('&' :: text)
  | literal {c : Char} {rest text : List Char} (noTag : c ≠ '<') (noEntity : c ≠ '&')
      (after : Shows rest text) : Shows (c :: rest) (c :: text)

variable {c : Char} {name cs inside rest text : List Char}

/-! ## Tags -/

private theorem forall_ne_close (h : '>' ∉ cs) : ∀ c ∈ cs, decide (c ≠ '>') = true := by
  intro c hc
  exact decide_eq_true fun hclose => h (hclose ▸ hc)

theorem afterTag?_of_closed (hinner : '>' ∉ inside) (rest : List Char) :
    afterTag? (inside ++ '>' :: rest) = some rest := by
  rw [afterTag?, List.dropWhile_append_of_pos (forall_ne_close hinner),
    List.dropWhile_cons_of_neg (by decide)]

theorem afterTag?_of_unclosed (h : '>' ∉ cs) : afterTag? cs = none := by
  rw [afterTag?, List.dropWhile_eq_nil_iff.mpr (forall_ne_close h)]

theorem exists_of_afterTag?_eq_some (h : afterTag? cs = some rest) :
    ∃ inside, '>' ∉ inside ∧ cs = inside ++ '>' :: rest := by
  by_cases hclose : '>' ∈ cs
  · obtain ⟨inside, after, rfl, hinner⟩ := List.eq_append_cons_of_mem hclose
    rw [afterTag?_of_closed hinner] at h
    obtain rfl := Option.some.inj h
    exact ⟨inside, hinner, rfl⟩
  · rw [afterTag?_of_unclosed hclose] at h
    cases h

theorem not_mem_of_afterTag?_eq_none (h : afterTag? cs = none) : '>' ∉ cs := by
  intro hclose
  obtain ⟨inside, rest, rfl, hinner⟩ := List.eq_append_cons_of_mem hclose
  rw [afterTag?_of_closed hinner] at h
  cases h

theorem plain_tag (hinner : '>' ∉ inside) (rest : List Char) :
    plain ('<' :: (inside ++ '>' :: rest)) = plain rest := by
  rw [plain, if_pos rfl]
  split
  next after hafter =>
    rw [afterTag?_of_closed hinner] at hafter
    rw [Option.some.inj hafter]
  next hafter =>
    rw [afterTag?_of_closed hinner] at hafter
    cases hafter

theorem plain_unclosed (h : '>' ∉ rest) : plain ('<' :: rest) = '<' :: rest := by
  rw [plain, if_pos rfl]
  split
  next after hafter =>
    rw [afterTag?_of_unclosed h] at hafter
    cases hafter
  next => rfl

/-! ## Entities -/

theorem mem_entities_iff : (name, c) ∈ entities ↔ Entity name c := by
  constructor
  · intro h
    simp only [entities, List.mem_cons, Prod.mk.injEq, List.not_mem_nil, or_false] at h
    rcases h with ⟨rfl, rfl⟩ | ⟨rfl, rfl⟩ | ⟨rfl, rfl⟩ | ⟨rfl, rfl⟩ | ⟨rfl, rfl⟩
    · exact .amp
    · exact .lt
    · exact .gt
    · exact .apos
    · exact .quot
  · intro h
    cases h <;> simp [entities]

theorem Entity.of_entity?_eq_some (h : entity? cs = some (name, c)) :
    Entity name c ∧ name <+: cs := by
  have hmem := List.mem_of_find?_eq_some h
  have hprefix := List.find?_some h
  exact ⟨mem_entities_iff.mp hmem, List.isPrefixOf_iff_prefix.mp hprefix⟩

theorem entity?_eq_none_iff :
    entity? cs = none ↔ ∀ name c, Entity name c → ¬ name <+: cs := by
  simp only [entity?, List.find?_eq_none, Prod.forall, mem_entities_iff,
    List.isPrefixOf_iff_prefix]

theorem plain_ampersand (hbare : ∀ name c, Entity name c → ¬ name <+: rest) :
    plain ('&' :: rest) = '&' :: plain rest := by
  rw [plain, if_neg (by decide), if_pos rfl, entity?_eq_none_iff.mpr hbare]

/-! ## The text of a markup -/

/-- Each rule shows what is computed. -/
theorem Shows.eq_plain (h : Shows cs text) : text = plain cs := by
  induction h with
  | nothing => rw [plain]
  | tag inner after ih => rw [plain_tag inner, ih]
  | unclosed unclosed => rw [plain_unclosed unclosed]
  | entity entity after ih => rw [plain_entity (mem_entities_iff.mpr entity), ih]
  | ampersand bare after ih => rw [plain_ampersand bare, ih]
  | literal noTag noEntity after ih => rw [plain_literal noEntity noTag, ih]

/-- What is computed is shown by the rules, each branch by one of them. -/
theorem shows_plain (cs : List Char) : Shows cs (plain cs) := by
  fun_induction plain cs with
  | case1 => exact .nothing
  | case2 cs rest hafter ih =>
      obtain ⟨inside, hinner, rfl⟩ := exists_of_afterTag?_eq_some hafter
      exact .tag hinner ih
  | case3 cs hafter => exact .unclosed (not_mem_of_afterTag?_eq_none hafter)
  | case4 cs name shown hentity _ ih =>
      obtain ⟨hname, rest, rfl⟩ := Entity.of_entity?_eq_some hentity
      rw [List.drop_left] at ih ⊢
      exact .entity hname ih
  | case5 cs hentity _ ih => exact .ampersand (entity?_eq_none_iff.mp hentity) ih
  | case6 c cs hlt hamp ih => exact .literal hlt hamp ih

theorem shows_iff : Shows cs text ↔ text = plain cs := by
  constructor
  · exact Shows.eq_plain
  · rintro rfl
    exact shows_plain cs

/-- No rule shows more characters than it reads. -/
theorem Shows.length_le (h : Shows cs text) : text.length ≤ cs.length := by
  induction h with
  | nothing => exact Nat.le_refl _
  | unclosed unclosed => exact Nat.le_refl _
  | tag inner after ih | entity entity after ih =>
      simp only [List.length_cons, List.length_append]
      omega
  | ampersand bare after ih | literal noTag noEntity after ih => exact Nat.succ_le_succ ih

/-- **Escaped text is inert.**  Escaped text shows as it stands in front of any markup, which shows
what it shows alone.  Every markup shows exactly one text by the rules for reading it, and none
that is longer than the markup. -/
theorem escaped_text_is_inert (cs markup : List Char) :
    plain (escape cs ++ markup) = cs ++ plain markup ∧
      (∀ text, Shows markup text ↔ text = plain markup) ∧
      (plain markup).length ≤ markup.length :=
  ⟨plain_escape_append cs markup, fun _ => shows_iff, (shows_plain markup).length_le⟩

end Captioning.Markup
