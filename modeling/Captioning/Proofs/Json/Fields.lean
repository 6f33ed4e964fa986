import Captioning.Json.Decode
import Captioning.Proofs.Decimal.Layouts
import Captioning.Proofs.Json.Spelling
import Mathlib.Data.List.Nodup

/-!
# Fields that are read back

A record is read field by field.  Its members are accepted exactly when all of them are declared
and none comes twice, in any order; a field that was not given has its default.
-/

namespace Captioning.Json

open Decimal

variable {α : Type} {declared : List String} {name : String} {value : Json} {fields all : Fields}
  {bound n : Nat}

/-! ## Scalars -/

/-- A natural number reads back from its digits. -/
theorem toNat?_ofNat (h : n < bound) : toNat? bound (ofNat n) = some n := by
  have hvalue : wholeNumber? (.ofNat n) = some n := by
    rw [wholeNumber?, if_pos ⟨rfl, rfl⟩]
    exact congrArg some (digitsValue_repr n)
  simp only [ofNat, toNat?, hvalue, Option.bind_eq_bind, Option.bind_some]
  rw [if_pos ⟨rfl, h⟩]

/-- An integer reads back from its sign and its digits. -/
theorem toInt?_ofInt {n : Int} (hlow : -(bound : Int) ≤ n) (hhigh : n < bound) :
    toInt? bound (ofInt n) = some n := by
  have hvalue : wholeNumber? (.ofInt n) = some n.natAbs := by
    rw [wholeNumber?, if_pos ⟨rfl, rfl⟩]
    exact congrArg some (digitsValue_repr n.natAbs)
  have hsign : (Numeral.ofInt n).negative = decide (n < 0) := rfl
  simp only [ofInt, toInt?, hvalue, Option.bind_eq_bind, Option.bind_some, hsign,
    decide_eq_true_eq]
  by_cases hneg : n < 0
  · rw [if_pos hneg, if_pos (by omega)]
    exact congrArg some (by omega)
  · rw [if_neg hneg, if_pos (by omega)]
    exact congrArg some (by omega)

theorem toText?_ofString (s : String) : toText? (ofString s) = some s :=
  rfl

theorem toBool?_bool (b : Bool) : toBool? (.bool b) = some b :=
  rfl

/-- A double reads back from its shortest decimal.  That of some doubles is read as a neighbour,
since the reader scales by powers of ten that are rounded themselves. -/
def ReadsBack (x : Float) : Prop :=
  toDouble? (ofDouble x) = some x

instance (x : Float) : Decidable (ReadsBack x) :=
  inferInstanceAs (Decidable (toDouble? (ofDouble x) = some x))

example : ReadsBack 0.25 ∧ ¬ReadsBack 0.18708286933869706 := by
  decide +kernel

theorem proper_ofNat (n : Nat) : Proper (ofNat n) :=
  .number (Numeral.isGrammatical_ofNat n)

theorem proper_ofInt (n : Int) : Proper (ofInt n) :=
  .number (Numeral.isGrammatical_ofInt n)

/-- Every double can be written: a finite one as a number, any other one as null. -/
theorem proper_ofDouble (x : Float) : Proper (ofDouble x) := by
  unfold ofDouble
  split
  next h => exact .number (NumeralLayout.isGrammatical_of_numeral? h)
  next => exact .null

theorem proper_record (h : ∀ f ∈ fields, Proper f.2) : Proper (record fields) := by
  refine .object ?_ ?_
  all_goals
    intro m hm
    obtain ⟨f, hf, rfl⟩ := List.mem_map.mp hm
  · rfl
  · exact h f hf

/-! ## Members -/

/-- The names of given fields. -/
def Fields.names (fields : Fields) : List String :=
  fields.map Prod.fst

theorem lookup_isSome_iff : (fields.lookup name).isSome = true ↔ name ∈ fields.names := by
  rw [List.lookup_isSome_iff, Fields.names, List.mem_map]
  constructor
  · rintro ⟨f, hf, heq⟩
    exact ⟨f, hf, (beq_iff_eq.mp heq).symm⟩
  · rintro ⟨f, hf, rfl⟩
    exact ⟨f, hf, beq_self_eq_true _⟩

/-- The fields of a record are accepted exactly when all of them are declared and none comes
twice. -/
theorem toFields?_record (declared : List String) (fields : Fields) :
    toFields? declared .declaredOnly (record fields) =
      if (∀ f ∈ fields, f.1 ∈ declared) ∧ fields.names.Nodup then some fields else none := by
  rw [record, toFields?]
  induction fields with
  | nil => rfl
  | cons f rest ih =>
      obtain ⟨name, value⟩ := f
      rw [List.map_cons, fieldsOfMembers?, ih]
      have hnames : Fields.names ((name, value) :: rest) = name :: Fields.names rest := rfl
      simp only [hnames, List.nodup_cons, List.forall_mem_cons]
      by_cases hrest : (∀ f ∈ rest, f.1 ∈ declared) ∧ (Fields.names rest).Nodup
      · rw [if_pos hrest]
        simp only [Option.bind_eq_bind, Option.bind_some, List.contains_iff_mem]
        by_cases hname : name ∈ declared
        · rw [if_pos hname]
          by_cases htwice : name ∈ Fields.names rest
          · rw [if_pos (lookup_isSome_iff.mpr htwice), if_neg fun h => h.2.1 htwice]
          · rw [if_neg fun h => htwice (lookup_isSome_iff.mp h),
              if_pos ⟨⟨hname, hrest.1⟩, htwice, hrest.2⟩]
        · rw [if_neg hname, if_neg (by decide), if_neg fun h => hname h.1.1]
      · rw [if_neg hrest, if_neg fun h => hrest ⟨h.1.2, h.2.2⟩]
        rfl

theorem toFields?_of_names (hdeclared : fields.names ⊆ declared)
    (hnodup : fields.names.Nodup) :
    toFields? declared .declaredOnly (record fields) = some fields := by
  rw [toFields?_record, if_pos]
  exact ⟨fun f hf => hdeclared (List.mem_map_of_mem hf), hnodup⟩

/-- With all that is declared, in declaration order. -/
theorem toFields?_of_names_eq (h : fields.names = declared) (hnodup : declared.Nodup) :
    toFields? declared .declaredOnly (record fields) = some fields :=
  toFields?_of_names (h ▸ List.Subset.refl _) (h ▸ hnodup)

/-- A member that is not declared, or that comes twice, is not accepted wherever it stands. -/
theorem toFields?_inserted {first second : Fields} (value : Json)
    (h : name ∉ declared ∨ name ∈ Fields.names (first ++ second)) :
    toFields? declared .declaredOnly (record (first ++ (name, value) :: second)) = none := by
  rw [toFields?_record, if_neg]
  rintro ⟨hmem, hnodup⟩
  rcases h with hother | htwice
  · exact hother (hmem (name, value) (List.mem_append_right _ List.mem_cons_self))
  · simp only [Fields.names, List.map_append, List.map_cons] at hnodup htwice
    exact (List.nodup_middle.mp hnodup).notMem htwice

/-! ## Values of fields -/

namespace Fields

/-- Where names do not come twice, a field is looked up as it stands. -/
theorem lookup_of_mem (hnodup : all.names.Nodup) (h : (name, value) ∈ all) :
    all.lookup name = some value := by
  induction all with
  | nil => exact absurd h List.not_mem_nil
  | cons f all ih =>
      obtain ⟨hfirst, hrest⟩ := List.nodup_cons.mp hnodup
      rcases List.mem_cons.mp h with rfl | hmem
      · exact List.lookup_cons_self
      · have hne : (name == f.1) = false := by
          rw [beq_eq_false_iff_ne]
          rintro rfl
          exact hfirst (List.mem_map.mpr ⟨_, hmem, rfl⟩)
        rw [List.lookup_cons, hne]
        exact ih hrest hmem

/-- Of the fields `all`, some are given: a field among them has its value, any other one its
default. -/
theorem get?_of_subset {read : Json → Option α} {a absent : α} (hall : all.names.Nodup)
    (hsub : fields ⊆ all) (hnodup : fields.names.Nodup) (hvalue : all.lookup name = some value)
    (hread : name ∈ fields.names → read value = some a) :
    fields.get? name read (some absent) = some (if name ∈ fields.names then a else absent) := by
  rw [get?]
  by_cases hgiven : name ∈ fields.names
  · obtain ⟨f, hf, rfl⟩ := List.mem_map.mp hgiven
    have hsame : f.2 = value :=
      Option.some.inj ((lookup_of_mem hall (hsub hf)).symm.trans hvalue)
    rw [lookup_of_mem hnodup hf, if_pos hgiven, hsame]
    exact hread hgiven
  · have hnone : fields.lookup name = none := by
      rw [← Option.not_isSome_iff_eq_none]
      exact fun hsome => hgiven (lookup_isSome_iff.mp hsome)
    rw [hnone, if_neg hgiven]

/-- A field that is given has its value, whatever its default. -/
theorem get?_of_lookup {read : Json → Option α} {a : α} {absent : Option α}
    (hvalue : fields.lookup name = some value) (hread : read value = some a) :
    fields.get? name read absent = some a := by
  rw [get?, hvalue]
  exact hread

end Fields

end Captioning.Json
