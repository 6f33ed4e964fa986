import Captioning.Text.Markup

/-!
# Escaped text

A text that is escaped shows as it stands, whatever markup follows it: no character of it is taken
for the beginning of a tag or of an entity.
-/

namespace Captioning.Markup

variable {c : Char} {name cs : List Char}

theorem escape_nil : escape [] = [] :=
  rfl

theorem escape_cons (c : Char) (cs : List Char) : escape (c :: cs) = escapeChar c ++ escape cs :=
  rfl

theorem escape_append (first second : List Char) :
    escape (first ++ second) = escape first ++ escape second :=
  List.flatMap_append

/-- A character stands for itself, or for an entity that shows it. -/
theorem escapeChar_cases (c : Char) :
    escapeChar c = [c] ∧ c ≠ '&' ∧ c ≠ '<' ∨
      ∃ name, (name, c) ∈ entities ∧ escapeChar c = '&' :: name := by
  unfold escapeChar
  by_cases hamp : c = '&'
  · subst hamp
    exact .inr ⟨_, by simp [entities], rfl⟩
  by_cases hlt : c = '<'
  · subst hlt
    exact .inr ⟨_, by simp [entities], rfl⟩
  rw [if_neg hamp, if_neg hlt]
  by_cases hgt : c = '>'
  · subst hgt
    exact .inr ⟨_, by simp [entities], rfl⟩
  by_cases hapos : c = '\x27'
  · subst hapos
    exact .inr ⟨_, by simp [entities], rfl⟩
  by_cases hquot : c = '"'
  · subst hquot
    exact .inr ⟨_, by simp [entities], rfl⟩
  rw [if_neg hgt, if_neg hapos, if_neg hquot]
  exact .inl ⟨rfl, hamp, hlt⟩

/-- The name of an entity is found whatever follows it: no name begins another one. -/
theorem entity?_append (h : (name, c) ∈ entities) (rest : List Char) :
    entity? (name ++ rest) = some (name, c) := by
  simp only [entities, List.mem_cons, Prod.mk.injEq, List.not_mem_nil, or_false] at h
  rcases h with ⟨rfl, rfl⟩ | ⟨rfl, rfl⟩ | ⟨rfl, rfl⟩ | ⟨rfl, rfl⟩ | ⟨rfl, rfl⟩ <;> rfl

theorem plain_literal (hamp : c ≠ '&') (hlt : c ≠ '<') (cs : List Char) :
    plain (c :: cs) = c :: plain cs := by
  rw [plain, if_neg hlt, if_neg hamp]

theorem plain_entity (h : (name, c) ∈ entities) (rest : List Char) :
    plain ('&' :: (name ++ rest)) = c :: plain rest := by
  rw [plain, if_neg (by decide), if_pos rfl, entity?_append h]
  simp only [List.drop_left]

theorem plain_escapeChar_append (c : Char) (rest : List Char) :
    plain (escapeChar c ++ rest) = c :: plain rest := by
  rcases escapeChar_cases c with ⟨hself, hamp, hlt⟩ | ⟨name, hentity, hescaped⟩
  · rw [hself]
    exact plain_literal hamp hlt rest
  · rw [hescaped]
    exact plain_entity hentity rest

/-- Escaped text shows as it stands, whatever markup follows it. -/
theorem plain_escape_append (cs rest : List Char) :
    plain (escape cs ++ rest) = cs ++ plain rest := by
  induction cs with
  | nil => rfl
  | cons c cs ih =>
      rw [escape_cons, List.append_assoc, plain_escapeChar_append, ih, List.cons_append]

theorem plain_escape (cs : List Char) : plain (escape cs) = cs := by
  rw [← List.append_nil (escape cs), plain_escape_append, plain, List.append_nil]

theorem escape_eq_nil_iff : escape cs = [] ↔ cs = [] := by
  constructor
  · intro h
    have hshown := plain_escape cs
    rw [h, plain] at hshown
    exact hshown.symm
  · rintro rfl
    rfl

end Captioning.Markup
