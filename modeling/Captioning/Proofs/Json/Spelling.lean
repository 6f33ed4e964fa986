import Captioning.Json.Reader
import Captioning.Proofs.Decimal.Numerals

/-!
# How values are spelled

A value has one spelling for each choice of blanks between its tokens.  The compact text and the
text over several lines are two of them.
-/

namespace Captioning.Json

open Decimal

variable {j item value : Json} {items : List Json} {members : List (Option String × Json)}
  {cs before after gap : List Char}

/-- Characters that may stand between tokens. -/
def Blank (cs : List Char) : Prop :=
  ∀ c ∈ cs, isBlank c = true

/-- Characters with blanks around them. -/
def Padded (cs padded : List Char) : Prop :=
  ∃ before after, Blank before ∧ Blank after ∧ padded = before ++ cs ++ after

mutual

/-- The spellings of a value, without blanks around it. -/
inductive Spelled : Json → List Char → Prop where
  | null : Spelled .null ['n', 'u', 'l', 'l']
  | yes : Spelled (.bool true) ['t', 'r', 'u', 'e']
  | no : Spelled (.bool false) ['f', 'a', 'l', 's', 'e']
  | number {n : Numeral} (h : n.IsGrammatical) : Spelled (.number n) n.chars
  | text (s : String) : Spelled (.text (some s)) (quoted s.toList)
  | noItems {blanks : List Char} (h : Blank blanks) :
      Spelled (.array []) ('[' :: (blanks ++ [']']))
  | array {items : List Json} {row : List Char} (h : SpelledItems items row) :
      Spelled (.array items) ('[' :: (row ++ [']']))
  | noMembers {blanks : List Char} (h : Blank blanks) :
      Spelled (.object []) ('\x7b' :: (blanks ++ ['\x7d']))
  | object {members : List (Option String × Json)} {row : List Char}
      (h : SpelledMembers members row) :
      Spelled (.object members) ('\x7b' :: (row ++ ['\x7d']))

/-- The spellings of items, of which there is at least one, with commas between them. -/
inductive SpelledItems : List Json → List Char → Prop where
  | last {item : Json} {cs part : List Char} (h : Spelled item cs) (hpart : Padded cs part) :
      SpelledItems [item] part
  | next {item : Json} {items : List Json} {cs part row : List Char} (h : Spelled item cs)
      (hpart : Padded cs part) (hrow : SpelledItems items row) :
      SpelledItems (item :: items) (part ++ ',' :: row)

/-- The spellings of members, of which there is at least one, with commas between them. -/
inductive SpelledMembers : List (Option String × Json) → List Char → Prop where
  | last {name : String} {value : Json} {label cs part : List Char}
      (hlabel : Padded (quoted name.toList) label) (h : Spelled value cs) (hpart : Padded cs part) :
      SpelledMembers [(some name, value)] (label ++ ':' :: part)
  | next {name : String} {value : Json} {members : List (Option String × Json)}
      {label cs part row : List Char} (hlabel : Padded (quoted name.toList) label)
      (h : Spelled value cs) (hpart : Padded cs part) (hrow : SpelledMembers members row) :
      SpelledMembers ((some name, value) :: members) (label ++ ':' :: part ++ ',' :: row)

end

/-- A text that spells a value. -/
def Spells (text : String) (j : Json) : Prop :=
  ∃ cs, Spelled j cs ∧ Padded cs text.toList

/-- A value all of whose numbers keep to the grammar and all of whose strings are texts. -/
inductive Proper : Json → Prop where
  | null : Proper .null
  | bool (b : Bool) : Proper (.bool b)
  | number {n : Numeral} (h : n.IsGrammatical) : Proper (.number n)
  | text (s : String) : Proper (.text (some s))
  | array {items : List Json} (h : ∀ item ∈ items, Proper item) : Proper (.array items)
  | object {members : List (Option String × Json)} (hnames : ∀ m ∈ members, m.1.isSome = true)
      (h : ∀ m ∈ members, Proper m.2) : Proper (.object members)

/-! ## Blanks -/

theorem blank_nil : Blank [] :=
  fun _ h => nomatch h

theorem blank_newline (level : Nat) : Blank (newline level) := by
  intro c hc
  rcases List.mem_cons.mp hc with rfl | hspace
  · rfl
  · rw [(List.mem_replicate.mp hspace).2]
    rfl

theorem padded_self (cs : List Char) : Padded cs cs :=
  ⟨[], [], blank_nil, blank_nil, by rw [List.nil_append, List.append_nil]⟩

theorem Padded.around {padded : List Char} (h : Padded cs padded) (hbefore : Blank before)
    (hafter : Blank after) : Padded cs (before ++ padded ++ after) := by
  obtain ⟨front, back, hfront, hback, rfl⟩ := h
  refine ⟨before ++ front, back ++ after, ?_, ?_, by simp only [List.append_assoc]⟩
  · exact fun c hc => (List.mem_append.mp hc).elim (hbefore c) (hfront c)
  · exact fun c hc => (List.mem_append.mp hc).elim (hback c) (hafter c)

theorem Padded.prepend {padded : List Char} (h : Padded cs padded) (hbefore : Blank before) :
    Padded cs (before ++ padded) := by
  simpa only [List.append_nil] using h.around hbefore blank_nil

theorem Padded.append {padded : List Char} (h : Padded cs padded) (hafter : Blank after) :
    Padded cs (padded ++ after) :=
  h.around blank_nil hafter

/-! ## Rows

Both texts of a value write the elements of a row one by one, with the same blanks before each of
them. -/

theorem separated_cons_cons (separator part next : List Char) (parts : List (List Char)) :
    separated separator (part :: next :: parts) =
      part ++ separator ++ separated separator (next :: parts) :=
  rfl

theorem spelledItems_separated {write : Json → List Char} (hbefore : Blank before)
    (hafter : Blank after) (hne : items ≠ []) (h : ∀ item ∈ items, Spelled item (write item)) :
    SpelledItems items (before ++ separated (',' :: before) (items.map write) ++ after) := by
  induction items with
  | nil => exact absurd rfl hne
  | cons item items ih =>
      have hitem := h item List.mem_cons_self
      cases items with
      | nil => exact .last hitem ((padded_self _).around hbefore hafter)
      | cons next items =>
          have hrow := ih (List.cons_ne_nil _ _) fun i hi => h i (List.mem_cons_of_mem _ hi)
          rw [List.map_cons] at hrow
          rw [List.map_cons, List.map_cons, separated_cons_cons]
          have hnext := SpelledItems.next hitem ((padded_self _).prepend hbefore) hrow
          simpa only [List.append_assoc, List.cons_append] using hnext

/-- A member with `gap` between its colon and its value. -/
def memberChars (gap : List Char) (write : Json → List Char) (m : Option String × Json) :
    List Char :=
  textChars m.1 ++ ':' :: (gap ++ write m.2)

theorem spelledMembers_separated {write : Json → List Char} (hgap : Blank gap)
    (hbefore : Blank before) (hafter : Blank after) (hne : members ≠ [])
    (hnames : ∀ m ∈ members, m.1.isSome = true) (h : ∀ m ∈ members, Spelled m.2 (write m.2)) :
    SpelledMembers members
      (before ++ separated (',' :: before) (members.map (memberChars gap write)) ++ after) := by
  induction members with
  | nil => exact absurd rfl hne
  | cons m members ih =>
      obtain ⟨name?, value⟩ := m
      obtain ⟨name, rfl⟩ := Option.isSome_iff_exists.mp (hnames _ List.mem_cons_self)
      have hvalue : Spelled value (write value) := h _ List.mem_cons_self
      have hlabel : Padded (quoted name.toList) (before ++ quoted name.toList) :=
        (padded_self _).prepend hbefore
      cases members with
      | nil =>
          have hlast := SpelledMembers.last hlabel hvalue ((padded_self _).around hgap hafter)
          simpa only [List.map_cons, List.map_nil, separated, memberChars, textChars,
            Option.getD_some, List.append_assoc, List.cons_append] using hlast
      | cons next members =>
          have hrow := ih (List.cons_ne_nil _ _)
            (fun m hm => hnames m (List.mem_cons_of_mem _ hm))
            fun m hm => h m (List.mem_cons_of_mem _ hm)
          rw [List.map_cons] at hrow
          rw [List.map_cons, List.map_cons, separated_cons_cons]
          have hnext := SpelledMembers.next hlabel hvalue ((padded_self _).prepend hgap) hrow
          simpa only [memberChars, textChars, Option.getD_some, List.append_assoc,
            List.cons_append] using hnext

/-! ## The two texts of a value -/

theorem compactItems_eq (items : List Json) : compactItems items = items.map compactChars := by
  induction items with
  | nil => rfl
  | cons item items ih => rw [compactItems, ih, List.map_cons]

theorem compactMembers_eq (members : List (Option String × Json)) :
    compactMembers members = members.map (memberChars [] compactChars) := by
  induction members with
  | nil => rfl
  | cons m members ih => rw [compactMembers, ih, List.map_cons, memberChars, List.nil_append]

theorem prettyItems_eq (level : Nat) (items : List Json) :
    prettyItems level items = items.map (prettyChars level) := by
  induction items with
  | nil => rfl
  | cons item items ih => rw [prettyItems, ih, List.map_cons]

theorem prettyMembers_eq (level : Nat) (members : List (Option String × Json)) :
    prettyMembers level members = members.map (memberChars [' '] (prettyChars level)) := by
  induction members with
  | nil => rfl
  | cons m members ih =>
      rw [prettyMembers, ih, List.map_cons, memberChars, List.singleton_append]

theorem Proper.spelled_compactChars (h : Proper j) : Spelled j (compactChars j) := by
  induction h with
  | null => exact .null
  | bool b => cases b with
    | true => exact .yes
    | false => exact .no
  | number h => exact .number h
  | text s => exact .text s
  | @array items _ ih =>
      rw [compactChars, compactItems_eq]
      by_cases hne : items = []
      · subst hne
        exact .noItems blank_nil
      · have hrow := spelledItems_separated blank_nil blank_nil hne ih
        simpa only [List.nil_append, List.append_nil, List.cons_append] using Spelled.array hrow
  | @object members hnames _ ih =>
      rw [compactChars, compactMembers_eq]
      by_cases hne : members = []
      · subst hne
        exact .noMembers blank_nil
      · have hrow := spelledMembers_separated blank_nil blank_nil blank_nil hne hnames ih
        simpa only [List.nil_append, List.append_nil, List.cons_append] using Spelled.object hrow

theorem block_of_ne_nil (level : Nat) (left right : Char) {parts : List (List Char)}
    (h : parts ≠ []) :
    block level left right parts =
      left :: (newline (level + 1) ++ separated (',' :: newline (level + 1)) parts ++
        newline level ++ [right]) := by
  rw [block, if_neg (by rwa [List.isEmpty_iff])]
  rfl

theorem Proper.spelled_prettyChars (h : Proper j) (level : Nat) :
    Spelled j (prettyChars level j) := by
  induction h generalizing level with
  | null => exact .null
  | bool b => cases b with
    | true => exact .yes
    | false => exact .no
  | number h => exact .number h
  | text s => exact .text s
  | @array items _ ih =>
      rw [prettyChars, prettyItems_eq]
      by_cases hne : items = []
      · subst hne
        exact .noItems blank_nil
      · rw [block_of_ne_nil _ _ _ (by simpa using hne)]
        exact .array (spelledItems_separated (blank_newline _) (blank_newline _) hne
          fun item hitem => ih item hitem _)
  | @object members hnames _ ih =>
      rw [prettyChars, prettyMembers_eq]
      by_cases hne : members = []
      · subst hne
        exact .noMembers blank_nil
      · have hgap : Blank [' '] := by simp [Blank, isBlank]
        rw [block_of_ne_nil _ _ _ (by simpa using hne)]
        exact .object (spelledMembers_separated hgap (blank_newline _) (blank_newline _) hne hnames
          fun m hm => ih m hm _)

/-- The compact text of a value spells it. -/
theorem spells_compact (h : Proper j) : Spells j.compact j :=
  ⟨_, h.spelled_compactChars, by rw [compact, String.toList_ofList]; exact padded_self _⟩

/-- The text of a value over several lines spells it, also when blanks follow. -/
theorem spells_pretty (h : Proper j) (hafter : Blank after) :
    Spells (j.pretty ++ String.ofList after) j := by
  refine ⟨_, h.spelled_prettyChars 0, ?_⟩
  rw [pretty, String.toList_append, String.toList_ofList, String.toList_ofList]
  exact (padded_self _).append hafter

end Captioning.Json
